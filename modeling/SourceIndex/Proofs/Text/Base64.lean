import Mathlib.Tactic.SplitIfs
import SourceIndex.Text.Base64

/-!
# Reading base64 back

What `encode` writes is read back, and nothing else is read.

Main statement: exactly what is written is read (`Base64.decode_eq_ok_iff`).
-/

set_option autoImplicit false

namespace SourceIndex.Base64

/-! ## Letters -/

theorem value?_letter {value : Nat} (small : value < 64) :
    value? (letter value) = some value := by
  revert value
  decide

theorem letter_ne_filling {value : Nat} (small : value < 64) : letter value ≠ filling := by
  revert value
  decide

/-- Only the letters have a number. -/
theorem value?_eq_some {symbol : UInt8} {value : Nat} (found : value? symbol = some value) :
    value < 64 ∧ symbol = letter value := by
  have below := symbol.toNat_lt
  simp only [value?, Bool.and_eq_true, decide_eq_true_eq] at found
  rw [letter, ← UInt8.toNat_inj]
  split_ifs at found ⊢
  all_goals
    cases found
    simp only [UInt8.toNat_ofNat', UInt8.toNat_ofNat]
    omega

/-- A text is made of letters and filling. -/
theorem mem_encode {bytes : Bytes} {byte : UInt8} (member : byte ∈ encode bytes) :
    byte = filling ∨ ∃ value < 64, byte = letter value := by
  induction bytes using encode.induct with
  | case1 => cases member
  | case2 first =>
    have below := first.toNat_lt_size
    have size : UInt8.size = 256 := rfl
    simp only [encode, List.mem_cons, List.not_mem_nil, or_false] at member
    rcases member with rfl | rfl | rfl | rfl
    · exact .inr ⟨_, by omega, rfl⟩
    · exact .inr ⟨_, by omega, rfl⟩
    · exact .inl rfl
    · exact .inl rfl
  | case3 first second =>
    have below := first.toNat_lt_size
    have below' := second.toNat_lt_size
    have size : UInt8.size = 256 := rfl
    simp only [encode, List.mem_cons, List.not_mem_nil, or_false] at member
    rcases member with rfl | rfl | rfl | rfl
    · exact .inr ⟨_, by omega, rfl⟩
    · exact .inr ⟨_, by omega, rfl⟩
    · exact .inr ⟨_, by omega, rfl⟩
    · exact .inl rfl
  | case4 first second third rest ih =>
    have below := first.toNat_lt_size
    have below' := second.toNat_lt_size
    have below'' := third.toNat_lt_size
    have size : UInt8.size = 256 := rfl
    simp only [encode, List.mem_cons] at member
    rcases member with rfl | rfl | rfl | rfl | later
    · exact .inr ⟨_, by omega, rfl⟩
    · exact .inr ⟨_, by omega, rfl⟩
    · exact .inr ⟨_, by omega, rfl⟩
    · exact .inr ⟨_, by omega, rfl⟩
    · exact ih later

/-! ## Groups -/

section Groups

variable {group : Group} {place offset : Nat} {rest : Bytes}

theorem readGroup_letter {value : Nat} (small : value < 64) (unfilled : group.filled = none) :
    readGroup group place offset (letter value :: rest) =
      readGroup { group with values := group.values ++ [value], last := letter value }
        (place + 1) (offset + 1) rest := by
  rw [readGroup, if_neg (letter_ne_filling small), unfilled, value?_letter small]

theorem readGroup_filling (later : 2 ≤ place) :
    readGroup group place offset (filling :: rest) =
      readGroup
        { group with filled := some (group.filled.getD offset), fillings := group.fillings + 1 }
        (place + 1) (offset + 1) rest := by
  rw [readGroup, if_pos rfl, if_neg (Nat.not_lt.2 later)]

/-- Every byte of a group that is read is filling or a letter, and no letter follows filling. -/
theorem readGroup_cons_eq_ok {byte : UInt8} {after : Group}
    (read : readGroup group place offset (byte :: rest) = .ok after) :
    (byte = filling ∧ 2 ≤ place ∧
        readGroup
          { group with filled := some (group.filled.getD offset), fillings := group.fillings + 1 }
          (place + 1) (offset + 1) rest = .ok after) ∨
      ∃ value < 64, byte = letter value ∧ group.filled = none ∧
        readGroup { group with values := group.values ++ [value], last := byte }
          (place + 1) (offset + 1) rest = .ok after := by
  rw [readGroup] at read
  split at read
  · next fills =>
    split at read
    · cases read
    · next later => exact .inl ⟨fills, Nat.le_of_not_lt later, read⟩
  · split at read
    · cases read
    · next unfilled =>
      split at read
      · cases read
      · next value found =>
        obtain ⟨small, isLetter⟩ := value?_eq_some found
        exact .inr ⟨value, small, isLetter, unfilled, read⟩
/-- Every byte of a group that is read counts as a letter or as filling. -/
theorem length_of_readGroup {text : Bytes} {after : Group}
    (read : readGroup group place offset text = .ok after) :
    after.values.length + after.fillings =
      group.values.length + group.fillings + text.length := by
  induction text generalizing group place offset with
  | nil =>
    cases read
    rfl
  | cons byte rest ih =>
    rw [readGroup] at read
    repeat' split at read
    all_goals first
      | cases read
      | (have counted := ih read
         simp only [List.length_append, List.length_cons, List.length_nil] at counted ⊢
         omega)

end Groups

/-- A last group of two letters stands for one byte if no bits are left over. -/
theorem decodeLast_one {a b offset : Nat} (smallA : a < 64) (smallB : b < 64) :
    decodeLast offset [letter a, letter b, filling, filling] =
      if b % 16 = 0 then .ok [UInt8.ofNat (a * 4 + b / 16)]
      else .error (.lastSymbol (letter b) (offset + 1)) := by
  have read : readGroup ⟨[], none, 0, 0⟩ 0 offset [letter a, letter b, filling, filling] =
      .ok ⟨[a, b], some (offset + 1 + 1), 2, letter b⟩ := by
    rw [readGroup_letter smallA rfl, readGroup_letter smallB rfl, readGroup_filling (by decide),
      readGroup_filling (by decide)]
    rfl
  simp [decodeLast, read]

/-- A last group of three letters stands for two bytes if no bits are left over. -/
theorem decodeLast_two {a b c offset : Nat} (smallA : a < 64) (smallB : b < 64)
    (smallC : c < 64) :
    decodeLast offset [letter a, letter b, letter c, filling] =
      if c % 4 = 0 then
        .ok [UInt8.ofNat (a * 4 + b / 16), UInt8.ofNat (b % 16 * 16 + c / 4)]
      else .error (.lastSymbol (letter c) (offset + 2)) := by
  have read : readGroup ⟨[], none, 0, 0⟩ 0 offset [letter a, letter b, letter c, filling] =
      .ok ⟨[a, b, c], some (offset + 1 + 1 + 1), 1, letter c⟩ := by
    rw [readGroup_letter smallA rfl, readGroup_letter smallB rfl, readGroup_letter smallC rfl,
      readGroup_filling (by decide)]
    rfl
  simp [decodeLast, read]

/-- A last group of four letters stands for three bytes. -/
theorem decodeLast_three {a b c d offset : Nat} (smallA : a < 64) (smallB : b < 64)
    (smallC : c < 64) (smallD : d < 64) :
    decodeLast offset [letter a, letter b, letter c, letter d] =
      .ok [UInt8.ofNat (a * 4 + b / 16), UInt8.ofNat (b % 16 * 16 + c / 4),
        UInt8.ofNat (c % 4 * 64 + d)] := by
  have read : readGroup ⟨[], none, 0, 0⟩ 0 offset [letter a, letter b, letter c, letter d] =
      .ok ⟨[a, b, c, d], none, 0, letter d⟩ := by
    rw [readGroup_letter smallA rfl, readGroup_letter smallB rfl, readGroup_letter smallC rfl,
      readGroup_letter smallD rfl]
    rfl
  simp [decodeLast, read]

/-- Four letters stand for three bytes, whatever follows. -/
theorem decodeGroups_letters {a b c d offset : Nat} {rest : Bytes}
    (smallA : a < 64) (smallB : b < 64) (smallC : c < 64) (smallD : d < 64) :
    decodeGroups offset (letter a :: letter b :: letter c :: letter d :: rest) =
      (decodeGroups (offset + 4) rest).map fun decoded =>
        UInt8.ofNat (a * 4 + b / 16) :: UInt8.ofNat (b % 16 * 16 + c / 4) ::
          UInt8.ofNat (c % 4 * 64 + d) :: decoded := by
  cases rest with
  | nil =>
    rw [decodeGroups, decodeLast_three smallA smallB smallC smallD]
    · rfl
    · simp
  | cons next more =>
    rw [decodeGroups, value?_letter smallA, value?_letter smallB, value?_letter smallC,
      value?_letter smallD]
    dsimp only
    cases decodeGroups (offset + 4) (next :: more) with
    | error error => rfl
    | ok decoded => rfl

theorem ofNat_eq (byte : UInt8) {number : Nat} (same : number = byte.toNat) :
    UInt8.ofNat number = byte := by
  rw [same, UInt8.ofNat_toNat]

theorem decodeGroups_encode (bytes : Bytes) (offset : Nat) :
    decodeGroups offset (encode bytes) = .ok bytes := by
  induction bytes using encode.induct generalizing offset with
  | case1 => rfl
  | case2 first =>
    have below : first.toNat < 256 := first.toNat_lt_size
    rw [encode, decodeGroups, decodeLast_one (by omega) (by omega), if_pos (by omega),
      ofNat_eq first (by omega)]
    simp
  | case3 first second =>
    have below : first.toNat < 256 := first.toNat_lt_size
    have below' : second.toNat < 256 := second.toNat_lt_size
    rw [encode, decodeGroups, decodeLast_two (by omega) (by omega) (by omega), if_pos (by omega),
      ofNat_eq first (by omega), ofNat_eq second (by omega)]
    simp
  | case4 first second third rest ih =>
    have below : first.toNat < 256 := first.toNat_lt_size
    have below' : second.toNat < 256 := second.toNat_lt_size
    have below'' : third.toNat < 256 := third.toNat_lt_size
    rw [encode, decodeGroups_letters (by omega) (by omega) (by omega) (by omega), ih, Except.map,
      ofNat_eq first (by omega), ofNat_eq second (by omega),
      ofNat_eq third (by omega)]

/-! ## Whole texts -/

theorem length_encode (bytes : Bytes) :
    (encode bytes).length = 4 * ((bytes.length + 2) / 3) := by
  induction bytes using encode.induct with
  | case1 => simp [encode]
  | case2 first => simp [encode]
  | case3 first second => simp [encode]
  | case4 first second third rest ih =>
    simp only [encode, List.length_cons, ih]
    omega

/-- **What is encoded is read back.** -/
theorem decode_encode (bytes : Bytes) : decode (encode bytes) = .ok bytes := by
  have whole : strayEnd? (encode bytes) = none := by
    rw [strayEnd?, if_neg (by rw [length_encode, Nat.mul_mod_right]; decide)]
  rw [decode, whole]
  exact decodeGroups_encode bytes 0

/-! ## Nothing else is read -/

/-- The byte of one letter and the first two bits of the next. -/
theorem toNat_first {a b : Nat} (smallA : a < 64) (smallB : b < 64) :
    (UInt8.ofNat (a * 4 + b / 16)).toNat = a * 4 + b / 16 :=
  UInt8.toNat_ofNat_of_lt' (show _ < 256 by omega)

/-- The byte of the other bits of a letter and the first four bits of the next. -/
theorem toNat_second {b c : Nat} (smallC : c < 64) :
    (UInt8.ofNat (b % 16 * 16 + c / 4)).toNat = b % 16 * 16 + c / 4 :=
  UInt8.toNat_ofNat_of_lt' (show _ < 256 by omega)

/-- The byte of the last two bits of a letter and the next. -/
theorem toNat_third {c d : Nat} (smallD : d < 64) :
    (UInt8.ofNat (c % 4 * 64 + d)).toNat = c % 4 * 64 + d :=
  UInt8.toNat_ofNat_of_lt' (show _ < 256 by omega)

theorem encode_one {a b : Nat} (smallA : a < 64) (smallB : b < 64) (spare : b % 16 = 0) :
    encode [UInt8.ofNat (a * 4 + b / 16)] = [letter a, letter b, filling, filling] := by
  rw [encode, toNat_first smallA smallB]
  congr 2
  · omega
  · congr 2
    omega

theorem encode_two {a b c : Nat} (smallA : a < 64) (smallB : b < 64) (smallC : c < 64)
    (spare : c % 4 = 0) :
    encode [UInt8.ofNat (a * 4 + b / 16), UInt8.ofNat (b % 16 * 16 + c / 4)] =
      [letter a, letter b, letter c, filling] := by
  rw [encode, toNat_first smallA smallB, toNat_second smallC]
  congr 3
  · omega
  · omega
  · congr 2
    omega

theorem encode_three {a b c d : Nat} (smallA : a < 64) (smallB : b < 64) (smallC : c < 64)
    (smallD : d < 64) (rest : Bytes) :
    encode (UInt8.ofNat (a * 4 + b / 16) :: UInt8.ofNat (b % 16 * 16 + c / 4) ::
        UInt8.ofNat (c % 4 * 64 + d) :: rest) =
      letter a :: letter b :: letter c :: letter d :: encode rest := by
  rw [encode, toNat_first smallA smallB, toNat_second smallC, toNat_third smallD]
  congr 4
  · omega
  · omega
  · omega
  · congr 2
    omega

theorem length_of_decodeLast {text decoded : Bytes} {offset : Nat}
    (read : decodeLast offset text = .ok decoded) : text.length % 4 = 0 := by
  unfold decodeLast at read
  split at read
  · next empty =>
    rw [List.isEmpty_iff.1 empty]
    rfl
  · split at read
    · cases read
    · next group found =>
      have counted := length_of_readGroup found
      simp only [List.length_nil, Nat.zero_add] at counted
      dsimp only at read
      split at read
      · cases read
      · split at read
        · cases read
        · next whole =>
          rw [← counted, Nat.add_comm]
          simpa using whole

/-- A last group of four bytes that is read has two, three or four letters and then filling. -/
theorem readGroup_four {w x y z : UInt8} {offset : Nat} {after : Group}
    (read : readGroup ⟨[], none, 0, 0⟩ 0 offset [w, x, y, z] = .ok after) :
    ∃ a < 64, w = letter a ∧ ∃ b < 64, x = letter b ∧
      (y = filling ∧ z = filling ∨
        ∃ c < 64, y = letter c ∧ (z = filling ∨ ∃ d < 64, z = letter d)) := by
  obtain ⟨-, early, -⟩ | ⟨a, smallA, isA, -, read⟩ := readGroup_cons_eq_ok read
  · exact absurd early (by decide)
  obtain ⟨-, early, -⟩ | ⟨b, smallB, isB, -, read⟩ := readGroup_cons_eq_ok read
  · exact absurd early (by decide)
  refine ⟨a, smallA, isA, b, smallB, isB, ?_⟩
  obtain ⟨fills, -, read⟩ | ⟨c, smallC, isC, -, read⟩ := readGroup_cons_eq_ok read
  · obtain ⟨fillsToo, -, -⟩ | ⟨d, -, -, filled, -⟩ := readGroup_cons_eq_ok read
    · exact .inl ⟨fills, fillsToo⟩
    · cases filled
  · obtain ⟨fills, -, -⟩ | ⟨d, smallD, isD, -, -⟩ := readGroup_cons_eq_ok read
    · exact .inr ⟨c, smallC, isC, .inl fills⟩
    · exact .inr ⟨c, smallC, isC, .inr ⟨d, smallD, isD⟩⟩

/-- A last group of four bytes that is read is what its bytes are written as. -/
theorem eq_encode_of_decodeLast_four {w x y z : UInt8} {decoded : Bytes} {offset : Nat}
    (read : decodeLast offset [w, x, y, z] = .ok decoded) : [w, x, y, z] = encode decoded := by
  obtain ⟨group, found⟩ : ∃ group,
      readGroup ⟨[], none, 0, 0⟩ 0 offset [w, x, y, z] = .ok group := by
    cases found : readGroup ⟨[], none, 0, 0⟩ 0 offset [w, x, y, z] with
    | error error => simp [decodeLast, found] at read
    | ok group => exact ⟨group, rfl⟩
  obtain ⟨a, smallA, rfl, b, smallB, rfl, shape⟩ := readGroup_four found
  rcases shape with ⟨rfl, rfl⟩ | ⟨c, smallC, rfl, rfl | ⟨d, smallD, rfl⟩⟩
  · rw [decodeLast_one smallA smallB] at read
    split at read
    · next spare =>
      cases read
      exact (encode_one smallA smallB spare).symm
    · cases read
  · rw [decodeLast_two smallA smallB smallC] at read
    split at read
    · next spare =>
      cases read
      exact (encode_two smallA smallB smallC spare).symm
    · cases read
  · rw [decodeLast_three smallA smallB smallC smallD] at read
    cases read
    exact (encode_three smallA smallB smallC smallD []).symm

/-- What is read is what its bytes are written as. -/
theorem eq_encode_of_decodeGroups {text decoded : Bytes} {offset : Nat}
    (read : decodeGroups offset text = .ok decoded) : text = encode decoded := by
  fun_induction decodeGroups offset text generalizing decoded with
  | case6 offset first second third fourth next rest a foundA b foundB c foundC d foundD later
      others ih =>
    obtain ⟨smallA, rfl⟩ := value?_eq_some foundA
    obtain ⟨smallB, rfl⟩ := value?_eq_some foundB
    obtain ⟨smallC, rfl⟩ := value?_eq_some foundC
    obtain ⟨smallD, rfl⟩ := value?_eq_some foundD
    cases read
    rw [encode_three smallA smallB smallC smallD, ← ih others]
  | case7 offset text short =>
    have whole := length_of_decodeLast read
    match text with
    | [] =>
      cases read
      rfl
    | [_] | [_, _] | [_, _, _] => simp at whole
    | [_, _, _, _] => exact eq_encode_of_decodeLast_four read
    | first :: second :: third :: fourth :: next :: rest =>
      exact (short first second third fourth next rest rfl).elim
  | _ => cases read

/-- **Exactly what encoding writes is read.** -/
theorem decode_eq_ok_iff {text decoded : Bytes} :
    decode text = .ok decoded ↔ text = encode decoded := by
  constructor
  · intro read
    unfold decode at read
    split at read
    · cases read
    · exact eq_encode_of_decodeGroups read
  · rintro rfl
    exact decode_encode decoded

end SourceIndex.Base64
