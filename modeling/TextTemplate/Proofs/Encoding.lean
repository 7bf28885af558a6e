import Mathlib.Data.List.TakeWhile
import Mathlib.Tactic.Lemma
import TextTemplate.Text.Utf8

/-!
# Reading what UTF-8 encodes

Bytes are read one at a time, and what is read from them is a text exactly if they are the encoding of that
text: no other bytes are read, and none of the longer forms of a character. In the other direction, what is made
of characters can be encoded, and nothing else.
-/

namespace TextTemplate.Text

/-- The bytes that encode a text. -/
def utf8 (t : List Char) : List UInt8 :=
  t.flatMap String.utf8EncodeChar

lemma utf8_cons (c : Char) (t : List Char) : utf8 (c :: t) = String.utf8EncodeChar c ++ utf8 t := rfl

lemma toNat_ofNat {n : Nat} (h : n.isValidChar) : (Char.ofNat n).toNat = n := by
  rw [Char.ofNat, dif_pos h]
  rfl

lemma byte_eq {n : Nat} {b : UInt8} (h : n = b.toNat) : UInt8.ofNat n = b := by
  rw [h]
  exact UInt8.ofNat_toNat

/-! ## Texts that can be encoded -/

/-- A text has an encoding: it is made of characters. -/
def IsEncodable (t : Text) : Prop :=
  ∃ cs, t = ofChars cs

lemma isEncodable_iff {t : Text} : t.IsEncodable ↔ ∀ c ∈ t, c.isChar = true := by
  constructor
  · rintro ⟨cs, rfl⟩ c hc
    obtain ⟨c, -, rfl⟩ := List.mem_map.1 hc
    rfl
  · intro h
    induction t with
    | nil => exact ⟨[], rfl⟩
    | cons first rest ih =>
      obtain ⟨hfirst, hrest⟩ := List.forall_mem_cons.1 h
      obtain ⟨cs, rfl⟩ := ih hrest
      cases first with
      | char c => exact ⟨c :: cs, rfl⟩
      | half n => cases hfirst

lemma encodingFault?_eq_none_iff {t : Text} : t.encodingFault? = none ↔ t.IsEncodable := by
  rw [isEncodable_iff, ← List.dropWhile_eq_nil_iff]
  unfold encodingFault?
  cases t.dropWhile CodePoint.isChar with
  | nil => simp
  | cons first rest => simp

/-! ## Bytes that continue a character -/

section Continuation

variable {p : PartialChar} {position : Nat} {bytes : List UInt8} {t : List Char}

/-- The code points of a character that has been read, with the next byte. -/
def PartialChar.codeWith (p : PartialChar) (b : UInt8) : Nat :=
  p.code * 64 + (b.toNat - 0x80)

/-- The beginning of a character with one byte more. -/
def PartialChar.further (p : PartialChar) (b : UInt8) : PartialChar :=
  { p with owed := p.owed - 1, low := 0x80, high := 0xBF, code := p.codeWith b }

lemma decodeFrom_last {b : UInt8} (rest : List UInt8) (howed : p.owed = 1)
    (hlow : p.low.toNat ≤ b.toNat) (hhigh : b.toNat ≤ p.high.toNat) :
    decodeFrom position (some p) (b :: rest) =
      (decodeFrom (position + 1) none rest).map (Char.ofNat (p.codeWith b) :: ·) := by
  rw [decodeFrom, if_pos ⟨UInt8.le_iff_toNat_le.2 hlow, UInt8.le_iff_toNat_le.2 hhigh⟩]
  exact if_pos howed

lemma decodeFrom_next {b : UInt8} (rest : List UInt8) (howed : p.owed ≠ 1)
    (hlow : p.low.toNat ≤ b.toNat) (hhigh : b.toNat ≤ p.high.toNat) :
    decodeFrom position (some p) (b :: rest) = decodeFrom (position + 1) (some (p.further b)) rest := by
  rw [decodeFrom, if_pos ⟨UInt8.le_iff_toNat_le.2 hlow, UInt8.le_iff_toNat_le.2 hhigh⟩]
  exact if_neg howed

lemma decodeFrom_some_ok (h : decodeFrom position (some p) bytes = .ok t) :
    ∃ b rest, bytes = b :: rest ∧ p.low.toNat ≤ b.toNat ∧ b.toNat ≤ p.high.toNat := by
  cases bytes with
  | nil => simp [decodeFrom] at h
  | cons b rest =>
    rw [decodeFrom] at h
    split at h
    · next hb => exact ⟨b, rest, rfl, UInt8.le_iff_toNat_le.1 hb.1, UInt8.le_iff_toNat_le.1 hb.2⟩
    · cases h

lemma map_cons_ok {c : Char} {r : Except Utf8Fault (List Char)} (h : r.map (c :: ·) = .ok t) :
    ∃ t', r = .ok t' ∧ t = c :: t' := by
  cases r with
  | error f => cases h
  | ok t' => exact ⟨t', rfl, (Except.ok.inj h).symm⟩

end Continuation

/-! ## Bytes that begin a character -/

section Beginning

variable {b : UInt8} {position : Nat}

lemma decodeFrom_ascii (rest : List UInt8) (h : b.toNat < 0x80) :
    decodeFrom position none (b :: rest) =
      (decodeFrom (position + 1) none rest).map (Char.ofNat b.toNat :: ·) := by
  rw [decodeFrom, if_pos (UInt8.lt_iff_toNat_lt.2 h)]

lemma decodeFrom_lead {p : PartialChar} (rest : List UInt8) (hb : 0x80 ≤ b.toNat)
    (h : leadByte? position b = some p) :
    decodeFrom position none (b :: rest) = decodeFrom (position + 1) (some p) rest := by
  rw [decodeFrom, if_neg (by rw [UInt8.lt_iff_toNat_lt]; exact Nat.not_lt.2 hb), h]

lemma leadByte?_two (hlow : 0xC2 ≤ b.toNat) (hhigh : b.toNat ≤ 0xDF) :
    leadByte? position b = some ⟨position, b, 1, 0x80, 0xBF, b.toNat - 0xC0⟩ := by
  rw [leadByte?, if_pos ⟨UInt8.le_iff_toNat_le.2 hlow, UInt8.le_iff_toNat_le.2 hhigh⟩]

lemma leadByte?_three (hlow : 0xE0 ≤ b.toNat) (hhigh : b.toNat ≤ 0xEF) :
    leadByte? position b =
      some ⟨position, b, 2, if b = 0xE0 then 0xA0 else 0x80, if b = 0xED then 0x9F else 0xBF,
        b.toNat - 0xE0⟩ := by
  have hnot : ¬ (0xC2 ≤ b ∧ b ≤ 0xDF) := by
    rintro ⟨-, h⟩
    have hb : b.toNat ≤ 0xDF := UInt8.le_iff_toNat_le.1 h
    omega
  rw [leadByte?, if_neg hnot, if_pos ⟨UInt8.le_iff_toNat_le.2 hlow, UInt8.le_iff_toNat_le.2 hhigh⟩]

lemma leadByte?_four (hlow : 0xF0 ≤ b.toNat) (hhigh : b.toNat ≤ 0xF4) :
    leadByte? position b =
      some ⟨position, b, 3, if b = 0xF0 then 0x90 else 0x80, if b = 0xF4 then 0x8F else 0xBF,
        b.toNat - 0xF0⟩ := by
  have hnot : ∀ low high : UInt8, high.toNat < 0xF0 → ¬ (low ≤ b ∧ b ≤ high) := by
    rintro low high hsmall ⟨-, h⟩
    have hb := UInt8.le_iff_toNat_le.1 h
    omega
  rw [leadByte?, if_neg (hnot _ _ (by decide)), if_neg (hnot _ _ (by decide)),
    if_pos ⟨UInt8.le_iff_toNat_le.2 hlow, UInt8.le_iff_toNat_le.2 hhigh⟩]

lemma leadByte?_some {p : PartialChar} (h : leadByte? position b = some p) :
    (0xC2 ≤ b.toNat ∧ b.toNat ≤ 0xDF) ∨ (0xE0 ≤ b.toNat ∧ b.toNat ≤ 0xEF) ∨
      (0xF0 ≤ b.toNat ∧ b.toNat ≤ 0xF4) := by
  unfold leadByte? at h
  split at h
  · next hb => exact .inl ⟨UInt8.le_iff_toNat_le.1 hb.1, UInt8.le_iff_toNat_le.1 hb.2⟩
  · split at h
    · next hb => exact .inr (.inl ⟨UInt8.le_iff_toNat_le.1 hb.1, UInt8.le_iff_toNat_le.1 hb.2⟩)
    · split at h
      · next hb => exact .inr (.inr ⟨UInt8.le_iff_toNat_le.1 hb.1, UInt8.le_iff_toNat_le.1 hb.2⟩)
      · cases h

end Beginning

/-! ## Whole characters -/

section Characters

variable {b x y z : UInt8} (position : Nat) (rest : List UInt8)

lemma toNat_ite (special unusual usual : UInt8) :
    (if b = special then unusual else usual).toNat =
      if b.toNat = special.toNat then unusual.toNat else usual.toNat := by
  by_cases h : b = special
  · rw [if_pos h, if_pos (congrArg UInt8.toNat h)]
  · rw [if_neg h, if_neg fun heq => h (UInt8.toNat_inj.1 heq)]

lemma decodeFrom_two (hb : 0xC2 ≤ b.toNat ∧ b.toNat ≤ 0xDF) (hx : 0x80 ≤ x.toNat ∧ x.toNat ≤ 0xBF) :
    decodeFrom position none (b :: x :: rest) =
      (decodeFrom (position + 2) none rest).map
        (Char.ofNat ((b.toNat - 0xC0) * 64 + (x.toNat - 0x80)) :: ·) := by
  let lead : PartialChar := ⟨position, b, 1, 0x80, 0xBF, b.toNat - 0xC0⟩
  calc decodeFrom position none (b :: x :: rest)
      = decodeFrom (position + 1) (some lead) (x :: rest) :=
        decodeFrom_lead _ (by omega) (leadByte?_two hb.1 hb.2)
    _ = (decodeFrom (position + 2) none rest).map (Char.ofNat (lead.codeWith x) :: ·) :=
        decodeFrom_last rest rfl hx.1 hx.2

lemma decodeFrom_three (hb : 0xE0 ≤ b.toNat ∧ b.toNat ≤ 0xEF)
    (hx : (if b.toNat = 0xE0 then 0xA0 else 0x80) ≤ x.toNat ∧
      x.toNat ≤ if b.toNat = 0xED then 0x9F else 0xBF) (hy : 0x80 ≤ y.toNat ∧ y.toNat ≤ 0xBF) :
    decodeFrom position none (b :: x :: y :: rest) =
      (decodeFrom (position + 3) none rest).map
        (Char.ofNat (((b.toNat - 0xE0) * 64 + (x.toNat - 0x80)) * 64 + (y.toNat - 0x80)) :: ·) := by
  let lead : PartialChar :=
    ⟨position, b, 2, if b = 0xE0 then 0xA0 else 0x80, if b = 0xED then 0x9F else 0xBF, b.toNat - 0xE0⟩
  have hlow : lead.low.toNat ≤ x.toNat := Nat.le_trans (Nat.le_of_eq (toNat_ite 0xE0 0xA0 0x80)) hx.1
  have hhigh : x.toNat ≤ lead.high.toNat := Nat.le_trans hx.2 (Nat.le_of_eq (toNat_ite 0xED 0x9F 0xBF).symm)
  calc decodeFrom position none (b :: x :: y :: rest)
      = decodeFrom (position + 1) (some lead) (x :: y :: rest) :=
        decodeFrom_lead _ (by omega) (leadByte?_three hb.1 hb.2)
    _ = decodeFrom (position + 2) (some (lead.further x)) (y :: rest) :=
        decodeFrom_next (y :: rest) (Nat.succ_succ_ne_one 0) hlow hhigh
    _ = (decodeFrom (position + 3) none rest).map (Char.ofNat ((lead.further x).codeWith y) :: ·) :=
        decodeFrom_last rest rfl hy.1 hy.2

lemma decodeFrom_four (hb : 0xF0 ≤ b.toNat ∧ b.toNat ≤ 0xF4)
    (hx : (if b.toNat = 0xF0 then 0x90 else 0x80) ≤ x.toNat ∧
      x.toNat ≤ if b.toNat = 0xF4 then 0x8F else 0xBF) (hy : 0x80 ≤ y.toNat ∧ y.toNat ≤ 0xBF)
    (hz : 0x80 ≤ z.toNat ∧ z.toNat ≤ 0xBF) :
    decodeFrom position none (b :: x :: y :: z :: rest) =
      (decodeFrom (position + 4) none rest).map
        (Char.ofNat ((((b.toNat - 0xF0) * 64 + (x.toNat - 0x80)) * 64 + (y.toNat - 0x80)) * 64 +
          (z.toNat - 0x80)) :: ·) := by
  let lead : PartialChar :=
    ⟨position, b, 3, if b = 0xF0 then 0x90 else 0x80, if b = 0xF4 then 0x8F else 0xBF, b.toNat - 0xF0⟩
  have hlow : lead.low.toNat ≤ x.toNat := Nat.le_trans (Nat.le_of_eq (toNat_ite 0xF0 0x90 0x80)) hx.1
  have hhigh : x.toNat ≤ lead.high.toNat := Nat.le_trans hx.2 (Nat.le_of_eq (toNat_ite 0xF4 0x8F 0xBF).symm)
  calc decodeFrom position none (b :: x :: y :: z :: rest)
      = decodeFrom (position + 1) (some lead) (x :: y :: z :: rest) :=
        decodeFrom_lead _ (by omega) (leadByte?_four hb.1 hb.2)
    _ = decodeFrom (position + 2) (some (lead.further x)) (y :: z :: rest) :=
        decodeFrom_next (y :: z :: rest) (Nat.succ_succ_ne_one 1) hlow hhigh
    _ = decodeFrom (position + 3) (some ((lead.further x).further y)) (z :: rest) :=
        decodeFrom_next (z :: rest) (Nat.succ_succ_ne_one 0) hy.1 hy.2
    _ = (decodeFrom (position + 4) none rest).map
          (Char.ofNat (((lead.further x).further y).codeWith z) :: ·) :=
        decodeFrom_last rest rfl hz.1 hz.2

end Characters

/-- A character and the bytes that are read as it. -/
inductive Encodes : Char → List UInt8 → Prop where
  | one {b : UInt8} (hb : b.toNat < 0x80) : Encodes (Char.ofNat b.toNat) [b]
  | two {b x : UInt8} (hb : 0xC2 ≤ b.toNat ∧ b.toNat ≤ 0xDF) (hx : 0x80 ≤ x.toNat ∧ x.toNat ≤ 0xBF) :
      Encodes (Char.ofNat ((b.toNat - 0xC0) * 64 + (x.toNat - 0x80))) [b, x]
  | three {b x y : UInt8} (hb : 0xE0 ≤ b.toNat ∧ b.toNat ≤ 0xEF)
      (hx : (if b.toNat = 0xE0 then 0xA0 else 0x80) ≤ x.toNat ∧
        x.toNat ≤ if b.toNat = 0xED then 0x9F else 0xBF) (hy : 0x80 ≤ y.toNat ∧ y.toNat ≤ 0xBF) :
      Encodes (Char.ofNat (((b.toNat - 0xE0) * 64 + (x.toNat - 0x80)) * 64 + (y.toNat - 0x80))) [b, x, y]
  | four {b x y z : UInt8} (hb : 0xF0 ≤ b.toNat ∧ b.toNat ≤ 0xF4)
      (hx : (if b.toNat = 0xF0 then 0x90 else 0x80) ≤ x.toNat ∧
        x.toNat ≤ if b.toNat = 0xF4 then 0x8F else 0xBF) (hy : 0x80 ≤ y.toNat ∧ y.toNat ≤ 0xBF)
      (hz : 0x80 ≤ z.toNat ∧ z.toNat ≤ 0xBF) :
      Encodes (Char.ofNat ((((b.toNat - 0xF0) * 64 + (x.toNat - 0x80)) * 64 + (y.toNat - 0x80)) * 64 +
        (z.toNat - 0x80))) [b, x, y, z]

namespace Encodes

variable {c : Char} {bytes : List UInt8}

lemma decodeFrom_append (h : Encodes c bytes) (position : Nat) (rest : List UInt8) :
    decodeFrom position none (bytes ++ rest) =
      (decodeFrom (position + bytes.length) none rest).map (c :: ·) := by
  cases h with
  | one hb => exact decodeFrom_ascii rest hb
  | two hb hx => exact decodeFrom_two position rest hb hx
  | three hb hx hy => exact decodeFrom_three position rest hb hx hy
  | four hb hx hy hz => exact decodeFrom_four position rest hb hx hy hz

lemma eq_encodeChar (h : Encodes c bytes) : String.utf8EncodeChar c = bytes := by
  unfold String.utf8EncodeChar
  cases h with
  | @one b hb =>
    have hc := toNat_ofNat (n := b.toNat) (.inl (by omega))
    rw [Char.toNat] at hc
    rw [hc, if_pos (by omega), byte_eq rfl]
  | @two b x hb hx =>
    generalize hv : (b.toNat - 0xC0) * 64 + (x.toNat - 0x80) = v
    have hc := toNat_ofNat (n := v) (.inl (by omega))
    rw [Char.toNat] at hc
    rw [hc, if_neg (by omega), if_pos (by omega), byte_eq (b := b) (by omega), byte_eq (b := x) (by omega)]
  | @three b x y hb hx hy =>
    generalize hv : ((b.toNat - 0xE0) * 64 + (x.toNat - 0x80)) * 64 + (y.toNat - 0x80) = v
    have hvalid : v.isValidChar := by
      unfold Nat.isValidChar
      split at hx <;> split at hx <;> omega
    have hsmall : ¬ v ≤ 0x7FF := by split at hx <;> omega
    have hc := toNat_ofNat hvalid
    rw [Char.toNat] at hc
    have hx' : 0x80 ≤ x.toNat ∧ x.toNat ≤ 0xBF := by split at hx <;> split at hx <;> omega
    rw [hc, if_neg (by omega), if_neg hsmall, if_pos (by omega), byte_eq (b := b) (by omega),
      byte_eq (b := x) (by omega), byte_eq (b := y) (by omega)]
  | @four b x y z hb hx hy hz =>
    generalize hv : (((b.toNat - 0xF0) * 64 + (x.toNat - 0x80)) * 64 + (y.toNat - 0x80)) * 64 +
      (z.toNat - 0x80) = v
    have hlarge : 0xFFFF < v ∧ v < 0x110000 := by split at hx <;> split at hx <;> omega
    have hc := toNat_ofNat (n := v) (.inr (by omega))
    rw [Char.toNat] at hc
    have hx' : 0x80 ≤ x.toNat ∧ x.toNat ≤ 0xBF := by split at hx <;> split at hx <;> omega
    rw [hc, if_neg (by omega), if_neg (by omega), if_neg (by omega), byte_eq (b := b) (by omega),
      byte_eq (b := x) (by omega), byte_eq (b := y) (by omega), byte_eq (b := z) (by omega)]

end Encodes

lemma exists_byte {n : Nat} (h : n < 256) : ∃ b : UInt8, b.toNat = n := by
  refine ⟨UInt8.ofNat n, ?_⟩
  rw [UInt8.toNat_ofNat']
  exact Nat.mod_eq_of_lt h

lemma encodes_of {c c' : Char} {bytes : List UInt8} (h : Encodes c' bytes) (hc : c' = c) : Encodes c bytes :=
  hc ▸ h

lemma exists_encodes (c : Char) : ∃ bytes, Encodes c bytes := by
  have hvalid : c.toNat < 0xD800 ∨ (0xDFFF < c.toNat ∧ c.toNat < 0x110000) := c.valid
  have hc : Char.ofNat c.toNat = c := Char.ofNat_toNat c
  generalize c.toNat = v at hvalid hc
  subst hc
  by_cases hone : v < 0x80
  · obtain ⟨b, hb⟩ := exists_byte (n := v) (by omega)
    exact ⟨_, encodes_of (.one (by omega)) (congrArg Char.ofNat hb)⟩
  by_cases htwo : v < 0x800
  · obtain ⟨b, hb⟩ := exists_byte (n := v / 64 + 0xC0) (by omega)
    obtain ⟨x, hx⟩ := exists_byte (n := v % 64 + 0x80) (by omega)
    have hencodes := Encodes.two (b := b) (x := x) (by omega) (by omega)
    exact ⟨_, encodes_of hencodes (congrArg Char.ofNat (by omega))⟩
  by_cases hthree : v < 0x10000
  · obtain ⟨b, hb⟩ := exists_byte (n := v / 4096 + 0xE0) (by omega)
    obtain ⟨x, hx⟩ := exists_byte (n := v / 64 % 64 + 0x80) (by omega)
    obtain ⟨y, hy⟩ := exists_byte (n := v % 64 + 0x80) (by omega)
    have hbounds : (if b.toNat = 0xE0 then 0xA0 else 0x80) ≤ x.toNat ∧
        x.toNat ≤ if b.toNat = 0xED then 0x9F else 0xBF := by
      constructor <;> split <;> omega
    have hencodes := Encodes.three (b := b) (x := x) (y := y) (by omega) hbounds (by omega)
    exact ⟨_, encodes_of hencodes (congrArg Char.ofNat (by omega))⟩
  · obtain ⟨b, hb⟩ := exists_byte (n := v / 262144 + 0xF0) (by omega)
    obtain ⟨x, hx⟩ := exists_byte (n := v / 4096 % 64 + 0x80) (by omega)
    obtain ⟨y, hy⟩ := exists_byte (n := v / 64 % 64 + 0x80) (by omega)
    obtain ⟨z, hz⟩ := exists_byte (n := v % 64 + 0x80) (by omega)
    have hbounds : (if b.toNat = 0xF0 then 0x90 else 0x80) ≤ x.toNat ∧
        x.toNat ≤ if b.toNat = 0xF4 then 0x8F else 0xBF := by
      constructor <;> split <;> omega
    have hencodes := Encodes.four (b := b) (x := x) (y := y) (z := z) (by omega) hbounds (by omega) (by omega)
    exact ⟨_, encodes_of hencodes (congrArg Char.ofNat (by omega))⟩

lemma encodes_encodeChar (c : Char) : Encodes c (String.utf8EncodeChar c) := by
  obtain ⟨bytes, h⟩ := exists_encodes c
  rwa [h.eq_encodeChar]

lemma decodeFrom_ok {position : Nat} {b : UInt8} {rest : List UInt8} {t : List Char}
    (h : decodeFrom position none (b :: rest) = .ok t) :
    ∃ c bytes left, Encodes c bytes ∧ b :: rest = bytes ++ left := by
  by_cases hascii : b.toNat < 0x80
  · exact ⟨_, [b], rest, .one hascii, rfl⟩
  have hlarge : ¬ b < 0x80 := fun hlt => hascii (UInt8.lt_iff_toNat_lt.1 hlt)
  cases hlead : leadByte? position b with
  | none =>
    rw [decodeFrom, if_neg hlarge, hlead] at h
    cases h
  | some p =>
    rw [decodeFrom_lead rest (by omega) hlead] at h
    obtain ⟨x, left, rfl, hx⟩ := decodeFrom_some_ok h
    rcases leadByte?_some hlead with hb | hb | hb
    · rw [leadByte?_two hb.1 hb.2] at hlead
      obtain rfl := Option.some.inj hlead
      exact ⟨_, [b, x], left, .two hb hx, rfl⟩
    · rw [leadByte?_three hb.1 hb.2] at hlead
      obtain rfl := Option.some.inj hlead
      rw [decodeFrom_next left (Nat.succ_succ_ne_one 0) hx.1 hx.2] at h
      obtain ⟨y, left, rfl, hy⟩ := decodeFrom_some_ok h
      rw [toNat_ite, toNat_ite] at hx
      exact ⟨_, [b, x, y], left, .three hb hx hy, rfl⟩
    · rw [leadByte?_four hb.1 hb.2] at hlead
      obtain rfl := Option.some.inj hlead
      rw [decodeFrom_next left (Nat.succ_succ_ne_one 1) hx.1 hx.2] at h
      obtain ⟨y, left, rfl, hy⟩ := decodeFrom_some_ok h
      rw [decodeFrom_next left (Nat.succ_succ_ne_one 0) hy.1 hy.2] at h
      obtain ⟨z, left, rfl, hz⟩ := decodeFrom_some_ok h
      rw [toNat_ite, toNat_ite] at hx
      exact ⟨_, [b, x, y, z], left, .four hb hx hy hz, rfl⟩

/-! ## Whole texts -/

lemma decodeFrom_utf8 (t : List Char) (position : Nat) : decodeFrom position none (utf8 t) = .ok t := by
  induction t generalizing position with
  | nil => rfl
  | cons c rest ih =>
    rw [utf8_cons, (encodes_encodeChar c).decodeFrom_append, ih]
    rfl

lemma utf8_of_decodeFrom {bytes : List UInt8} {position : Nat} {t : List Char}
    (h : decodeFrom position none bytes = .ok t) : bytes = utf8 t := by
  induction hn : bytes.length using Nat.strongRecOn generalizing bytes position t with
  | ind n ih =>
    cases bytes with
    | nil =>
      obtain rfl := Except.ok.inj h
      rfl
    | cons b rest =>
      obtain ⟨c, front, left, hc, heq⟩ := decodeFrom_ok h
      rw [heq] at h hn ⊢
      have hshorter : left.length < n := by
        have hfront : 0 < front.length := by cases hc <;> simp
        rw [List.length_append] at hn
        omega
      rw [hc.decodeFrom_append] at h
      obtain ⟨t', hleft, rfl⟩ := map_cons_ok h
      rw [utf8_cons, hc.eq_encodeChar, ← ih left.length hshorter hleft rfl]

/-- Bytes are read as a text exactly if they are the encoding of that text. -/
theorem decodeUtf8_eq_ok_iff {bytes : List UInt8} {t : List Char} : decodeUtf8 bytes = .ok t ↔ bytes = utf8 t := by
  constructor
  · exact utf8_of_decodeFrom
  · rintro rfl
    exact decodeFrom_utf8 t 0

end TextTemplate.Text
