import Mathlib.Tactic.SplitIfs
import SourceIndex.Text.Utf8

/-!
# Reading characters back

A character is read from the front of an input exactly if the input starts with the bytes that the
character is written as (`Utf8.front_eq_character_iff`): the limits on the second byte leave no
other spelling of a character, no surrogate and nothing beyond the last code point.

Main statement: bytes are read as a text exactly if they are what the text is written as
(`Utf8.decode_eq_ok_iff`), so two texts with the same bytes are the same (`Utf8.ofString_inj`).
-/

set_option autoImplicit false

namespace SourceIndex.Utf8

/-! ## Digits -/

theorem toNat_ofNat {number : Nat} (small : number < 256) :
    (UInt8.ofNat number).toNat = number :=
  UInt8.toNat_ofNat_of_lt' small

/-- A byte that continues a character carries a digit of six bits. -/
theorem continuation?_eq_some_iff {byte : UInt8} {digit : Nat} :
    continuation? byte = some digit ↔ byte.toNat = digit + 0x80 ∧ digit < 64 := by
  simp only [continuation?, Bool.and_eq_true, decide_eq_true_eq]
  split_ifs
  · rw [Option.some_inj]
    omega
  · refine iff_of_false nofun ?_
    omega

theorem allowsThird_iff {lead second : Nat} :
    allowsThird lead second = true ↔
      (0x80 ≤ second ∧ second ≤ 0xBF) ∧ (lead = 0xE0 → 0xA0 ≤ second) ∧
        (lead = 0xED → second ≤ 0x9F) := by
  unfold allowsThird
  split_ifs
  all_goals
    simp only [Bool.and_eq_true, decide_eq_true_eq]
    omega

theorem allowsFourth_iff {lead second : Nat} :
    allowsFourth lead second = true ↔
      (0x80 ≤ second ∧ second ≤ 0xBF) ∧ (lead = 0xF0 → 0x90 ≤ second) ∧
        (lead = 0xF4 → second ≤ 0x8F) := by
  unfold allowsFourth
  split_ifs
  all_goals
    simp only [Bool.and_eq_true, decide_eq_true_eq]
    omega

/-! ## Single characters -/

/-- The bytes of a character are read as the character, whatever follows. -/
theorem front_utf8EncodeChar (value : Char) (rest : Bytes) :
    ∃ first tail, String.utf8EncodeChar value = first :: tail ∧
      front first (tail ++ rest) = .character value rest := by
  have valid : value.val.toNat.isValidChar := value.valid
  have itself : Char.ofNat value.val.toNat = value := Char.ofNat_toNat value
  unfold String.utf8EncodeChar
  generalize value.val.toNat = code at valid itself ⊢
  subst itself
  have lastDigit : continuation? (UInt8.ofNat (code % 64 + 128)) = some (code % 64) :=
    continuation?_eq_some_iff.2 ⟨toNat_ofNat (by omega), by omega⟩
  have middleDigit : continuation? (UInt8.ofNat (code / 64 % 64 + 128)) = some (code / 64 % 64) :=
    continuation?_eq_some_iff.2 ⟨toNat_ofNat (by omega), by omega⟩
  dsimp only
  split_ifs with one two three
  · refine ⟨_, _, rfl, ?_⟩
    simp only [front, toNat_ofNat (show code < 256 by omega)]
    rw [if_pos (by omega)]
    rfl
  · have lead := toNat_ofNat (show code / 64 % 32 + 192 < 256 by omega)
    refine ⟨_, _, rfl, ?_⟩
    simp only [front, Bool.and_eq_true, decide_eq_true_eq, lead, List.cons_append, lastDigit]
    rw [if_neg (by omega), if_pos (by omega)]
    congr 2
    omega
  · have lead := toNat_ofNat (show code / 4096 % 16 + 224 < 256 by omega)
    have second := toNat_ofNat (show code / 64 % 64 + 128 < 256 by omega)
    have allowed : allowsThird (code / 4096 % 16 + 224) (code / 64 % 64 + 128) = true := by
      rw [allowsThird_iff]
      omega
    refine ⟨_, _, rfl, ?_⟩
    simp only [front, Bool.and_eq_true, decide_eq_true_eq, lead, List.cons_append, frontThree,
      second, allowed, if_true, lastDigit]
    rw [if_neg (by omega), if_neg (by omega), if_pos (by omega)]
    congr 2
    omega
  · have lead := toNat_ofNat (show code / 262144 % 8 + 240 < 256 by omega)
    have second := toNat_ofNat (show code / 4096 % 64 + 128 < 256 by omega)
    have allowed : allowsFourth (code / 262144 % 8 + 240) (code / 4096 % 64 + 128) = true := by
      rw [allowsFourth_iff]
      omega
    refine ⟨_, _, rfl, ?_⟩
    simp only [front, Bool.and_eq_true, decide_eq_true_eq, lead, List.cons_append, frontFour,
      second, allowed, if_true, middleDigit, lastDigit]
    rw [if_neg (by omega), if_neg (by omega), if_neg (by omega), if_pos (by omega)]
    congr 2
    omega

/-- The bytes of the character with a code point. -/
theorem utf8EncodeChar_ofNat {code : Nat} (valid : code.isValidChar) :
    String.utf8EncodeChar (Char.ofNat code) =
      if code ≤ 0x7F then [UInt8.ofNat code]
      else if code ≤ 0x7FF then [UInt8.ofNat (code / 64 % 32 + 192), UInt8.ofNat (code % 64 + 128)]
      else if code ≤ 0xFFFF then
        [UInt8.ofNat (code / 4096 % 16 + 224), UInt8.ofNat (code / 64 % 64 + 128),
          UInt8.ofNat (code % 64 + 128)]
      else
        [UInt8.ofNat (code / 262144 % 8 + 240), UInt8.ofNat (code / 4096 % 64 + 128),
          UInt8.ofNat (code / 64 % 64 + 128), UInt8.ofNat (code % 64 + 128)] := by
  have same : (Char.ofNat code).val.toNat = code := by
    rw [Char.ofNat, dif_pos valid]
    rfl
  simp only [String.utf8EncodeChar, same]

theorem spelled_of_frontThree {first : UInt8} {rest more : Bytes} {value : Char}
    (leads : 0xE0 ≤ first.toNat ∧ first.toNat ≤ 0xEF) :
    frontThree first.toNat rest = .character value more →
      first :: rest = String.utf8EncodeChar value ++ more := by
  fun_cases frontThree first.toNat rest with
  | case4 second allowed third after last digit =>
    rintro ⟨⟩
    rw [allowsThird_iff] at allowed
    rw [continuation?_eq_some_iff] at digit
    -- Neither a shorter spelling nor a surrogate passes the limits on the second byte.
    rw [utf8EncodeChar_ofNat (by unfold Nat.isValidChar; omega), if_neg (by omega),
      if_neg (by omega), if_pos (by omega)]
    simp only [List.cons_append, List.nil_append, List.cons.injEq, and_true, ← UInt8.toNat_inj]
    rw [toNat_ofNat (by omega), toNat_ofNat (by omega), toNat_ofNat (by omega)]
    omega
  | _ => nofun

theorem spelled_of_frontFour {first : UInt8} {rest more : Bytes} {value : Char}
    (leads : 0xF0 ≤ first.toNat ∧ first.toNat ≤ 0xF4) :
    frontFour first.toNat rest = .character value more →
      first :: rest = String.utf8EncodeChar value ++ more := by
  fun_cases frontFour first.toNat rest with
  | case6 second allowed third middle middleDigit fourth after last lastDigit =>
    rintro ⟨⟩
    rw [allowsFourth_iff] at allowed
    rw [continuation?_eq_some_iff] at middleDigit lastDigit
    -- Neither a shorter spelling nor a number beyond the last code point passes.
    rw [utf8EncodeChar_ofNat (by unfold Nat.isValidChar; omega), if_neg (by omega),
      if_neg (by omega), if_neg (by omega)]
    simp only [List.cons_append, List.nil_append, List.cons.injEq, and_true, ← UInt8.toNat_inj]
    rw [toNat_ofNat (by omega), toNat_ofNat (by omega), toNat_ofNat (by omega),
      toNat_ofNat (by omega)]
    omega
  | _ => nofun

/-- What is read as a character is what the character is written as. -/
theorem spelled_of_front {first : UInt8} {rest more : Bytes} {value : Char} :
    front first rest = .character value more →
      first :: rest = String.utf8EncodeChar value ++ more := by
  fun_cases front first rest with
  | case1 rest lead low =>
    rintro ⟨⟩
    rw [utf8EncodeChar_ofNat (by unfold Nat.isValidChar; omega), if_pos (by omega),
      UInt8.ofNat_toNat]
    rfl
  | case4 lead low leads second after last digit =>
    rintro ⟨⟩
    simp only [Bool.and_eq_true, decide_eq_true_eq] at leads
    rw [continuation?_eq_some_iff] at digit
    rw [utf8EncodeChar_ofNat (by unfold Nat.isValidChar; omega), if_neg (by omega),
      if_pos (by omega)]
    simp only [List.cons_append, List.nil_append, List.cons.injEq, and_true, ← UInt8.toNat_inj]
    rw [toNat_ofNat (by omega), toNat_ofNat (by omega)]
    omega
  | case5 rest lead low two leads =>
    simp only [Bool.and_eq_true, decide_eq_true_eq] at leads
    exact spelled_of_frontThree leads
  | case6 rest lead low two three leads =>
    simp only [Bool.and_eq_true, decide_eq_true_eq] at leads
    exact spelled_of_frontFour leads
  | _ => nofun

/-- **A character is read exactly if its bytes are there.** -/
theorem front_eq_character_iff {first : UInt8} {rest more : Bytes} {value : Char} :
    front first rest = .character value more ↔
      first :: rest = String.utf8EncodeChar value ++ more := by
  refine ⟨spelled_of_front, fun spelled => ?_⟩
  obtain ⟨lead, tail, bytes, read⟩ := front_utf8EncodeChar value more
  rw [bytes, List.cons_append] at spelled
  cases spelled
  exact read

/-! ## Texts -/

theorem encode_cons (value : Char) (text : List Char) :
    encode (value :: text) = String.utf8EncodeChar value ++ encode text :=
  List.flatMap_cons

theorem eq_encode_of_decodeFrom {index fuel : Nat} {bytes : Bytes} {text : List Char}
    (enough : bytes.length ≤ fuel) (read : decodeFrom index fuel bytes = .ok text) :
    bytes = encode text := by
  induction fuel generalizing index bytes text with
  | zero =>
    rw [List.eq_nil_of_length_eq_zero (Nat.le_zero.1 enough)] at read ⊢
    cases read
    rfl
  | succ fuel ih =>
    cases bytes with
    | nil =>
      cases read
      rfl
    | cons first rest =>
      rw [decodeFrom] at read
      split at read
      · cases read
      · cases read
      · next value more found =>
        have spelled := front_eq_character_iff.1 found
        split at read
        · next later others =>
          cases read
          have shorter : more.length ≤ fuel := by
            have lengths := congrArg List.length spelled
            have taken := List.length_pos_iff.2 (@String.utf8EncodeChar_ne_nil value)
            rw [List.length_append, List.length_cons] at lengths
            rw [List.length_cons] at enough
            omega
          rw [spelled, encode_cons, ih shorter others]
        · cases read

theorem decodeFrom_encode {index fuel : Nat} {text : List Char}
    (enough : (encode text).length ≤ fuel) : decodeFrom index fuel (encode text) = .ok text := by
  induction text generalizing index fuel with
  | nil =>
    cases fuel with
    | zero => rfl
    | succ fuel => rfl
  | cons value later ih =>
    obtain ⟨first, tail, bytes, read⟩ := front_utf8EncodeChar value (encode later)
    rw [encode_cons, bytes, List.cons_append] at enough ⊢
    cases fuel with
    | zero => cases enough
    | succ fuel =>
      rw [List.length_cons, List.length_append] at enough
      rw [decodeFrom, read]
      dsimp only
      rw [ih (by omega)]

/-- **Bytes are read as a text exactly if they are what it is written as.** -/
theorem decode_eq_ok_iff {bytes : Bytes} {text : List Char} :
    decode bytes = .ok text ↔ bytes = encode text := by
  constructor
  · exact eq_encode_of_decodeFrom (Nat.le_refl _)
  · rintro rfl
    exact decodeFrom_encode (Nat.le_refl _)

/-- Texts with the same bytes are the same. -/
theorem ofString_inj {left right : String} : ofString left = ofString right ↔ left = right := by
  constructor
  · intro same
    have read := decode_eq_ok_iff.2 same
    rw [ofString, decode_eq_ok_iff.2 rfl] at read
    exact String.toList_inj.1 (Except.ok.inj read)
  · rintro rfl
    rfl

end SourceIndex.Utf8
