import OpenstackAdmission.Net.Cidr
import OpenstackAdmission.Proofs.Net.AddressText

/-!
# Texts of networks

A network is written in one way and read in many: the length of its prefix may have a plus and zeros in front, the
zeros of its address may be left out in several places, digits may be upper case, and the last groups may be an IPv4
address.

> `faithfulText`: the text of a network reads back as the network, so two networks are the same exactly if their texts
are. It is read from the texts that spell its address and its prefix length, and from no others; a text that spells a
length beyond the width of the address is refused.

How long a length may be is a matter of two bounds, that of the byte it is read into and that of the family. A length
is spelled by digits of any number here (`StatesNumber`), so that both bounds are seen to apply.
-/

namespace OpenstackAdmission.Net

open Address

/-! ## Lengths -/

/-- A text states a number: digits, and perhaps a plus before them. -/
def StatesNumber (cs : List Char) (n : Nat) : Prop :=
  ∃ digits, (cs = digits ∨ cs = '+' :: digits) ∧ digits ≠ [] ∧ (∀ c ∈ digits, c.isDigit = true) ∧
    Nat.ofDigitChars 10 digits 0 = n

section Length

variable {cs digits : List Char} {n m : Nat}

theorem digitValue?_of_isDigit {c : Char} (hc : c.isDigit = true) : digitValue? c = some (c.toNat - 48) :=
  if_pos hc

theorem isDigit_of_digitValue? {c : Char} {v : Nat} (hc : digitValue? c = some v) : c.isDigit = true := by
  cases hdigit : c.isDigit with
  | true => rfl
  | false =>
    rw [digitValue?_eq_none_iff.mpr hdigit] at hc
    cases hc

/-- Digits lead to their number, and only digits lead anywhere. -/
theorem leads_iff : Leads digitValue? 10 n digits m ↔
    (∀ c ∈ digits, c.isDigit = true) ∧ Nat.ofDigitChars 10 digits n = m := by
  constructor
  · intro h
    induction h with
    | nil n => exact ⟨nofun, rfl⟩
    | @cons n v m c digits hc _ ih =>
      have hdigit : c.isDigit = true := isDigit_of_digitValue? hc
      obtain rfl : c.toNat - 48 = v := Option.some.inj ((digitValue?_of_isDigit hdigit).symm.trans hc)
      refine ⟨List.forall_mem_cons.mpr ⟨hdigit, ih.1⟩, ?_⟩
      rw [Nat.ofDigitChars_cons, Nat.mul_comm 10 n]
      exact ih.2
  -- the digits are given, so the induction is on them and no longer on how they lead
  · rintro ⟨hdigits, rfl⟩
    induction digits generalizing n with
    | nil => exact .nil n
    | cons c digits ih =>
      obtain ⟨hc, hrest⟩ := List.forall_mem_cons.mp hdigits
      refine .cons (digitValue?_of_isDigit hc) ?_
      rw [Nat.ofDigitChars_cons, Nat.mul_comm 10 n]
      exact ih hrest

/-- More digits do not make a number smaller. -/
theorem le_of_leads (h : Leads digitValue? 10 n digits m) : n ≤ m := by
  induction h with
  | nil n => exact Nat.le_refl n
  | @cons n v m c digits _ _ ih => omega

/-- Digits are read unless their number has no place in a byte, which shows at some digit. -/
theorem scanLength_of_leads (h : Leads digitValue? 10 n digits m) (hn : n ≤ 255) :
    scanLength n digits = if 255 < m then .error .tooLarge else .ok m := by
  induction h with
  | nil n => rw [if_neg (Nat.not_lt.mpr hn), scanLength]
  | @cons n v m c digits hc hrest ih =>
    rw [scanLength, hc]
    -- a number that is too large at some digit is too large at the end
    by_cases hlarge : 255 < n * 10 + v
    · have hm : 255 < m := Nat.lt_of_lt_of_le hlarge (le_of_leads hrest)
      simp only [if_pos hlarge, if_pos hm]
    · simp only [if_neg hlarge]
      exact ih (Nat.le_of_not_lt hlarge)

theorem leads_of_scanLength (h : scanLength n cs = .ok m) : Leads digitValue? 10 n cs m := by
  induction cs generalizing n with
  | nil =>
    obtain rfl := Except.ok.inj h
    exact .nil n
  | cons c cs ih =>
    rw [scanLength] at h
    cases hc : digitValue? c with
    | none =>
      rw [hc] at h
      cases h
    | some v =>
      rw [hc] at h
      by_cases hlarge : 255 < n * 10 + v
      · simp only [if_pos hlarge, reduceCtorEq] at h
      · simp only [if_neg hlarge] at h
        exact .cons hc (ih h)

theorem parseLength_digits (hne : digits ≠ []) (hdigits : ∀ c ∈ digits, c.isDigit = true) :
    parseLength digits = scanLength 0 digits := by
  unfold parseLength
  split
  next => exact absurd rfl hne
  next => cases hdigits '+' (.head _)
  next => cases hdigits '+' (.head _)
  next => rfl

theorem parseLength_plus (hne : digits ≠ []) : parseLength ('+' :: digits) = scanLength 0 digits := by
  cases digits with
  | nil => exact absurd rfl hne
  | cons c digits => rfl

/-- **A length that is stated is read, unless it has no place in a byte.** -/
theorem parseLength_of_states (h : StatesNumber cs n) :
    parseLength cs = if 255 < n then .error .tooLarge else .ok n := by
  obtain ⟨digits, hcs, hne, hdigits, hnumber⟩ := h
  rw [← scanLength_of_leads (leads_iff.mpr ⟨hdigits, hnumber⟩) (Nat.zero_le 255)]
  rcases hcs with rfl | rfl
  · exact parseLength_digits hne hdigits
  · exact parseLength_plus hne

/-- A length that is read is a number in digits, maybe behind a plus sign. Leading zeros are digits like
others. -/
theorem states_of_parseLength (h : parseLength cs = .ok n) : StatesNumber cs n := by
  unfold parseLength at h
  split at h
  next => cases h
  next => cases h
  next digits hne =>
    obtain ⟨hdigits, hnumber⟩ := leads_iff.mp (leads_of_scanLength h)
    exact ⟨digits, .inr rfl, hne, hdigits, hnumber⟩
  next hne _ _ =>
    obtain ⟨hdigits, hnumber⟩ := leads_iff.mp (leads_of_scanLength h)
    exact ⟨cs, .inl rfl, hne, hdigits, hnumber⟩

end Length

namespace Cidr

/-! ## Networks -/

/-- A text spells an address and a length: around its first slash, it has an address and states a number. -/
def Spells (s : String) (a : Address) (length : Nat) : Prop :=
  ∃ addressText lengthText, s.toList = addressText ++ '/' :: lengthText ∧ '/' ∉ addressText ∧
    Address.parse? addressText = some a ∧ StatesNumber lengthText length

section Parse

variable {s : String} {a : Address} {c : Cidr} {length : Nat}

/-- A text is cut at its first slash. -/
theorem cut_of_slash {addressText lengthText : List Char} (hs : s.toList = addressText ++ '/' :: lengthText)
    (hslash : '/' ∉ addressText) :
    s.toList.dropWhile (· != '/') = '/' :: lengthText ∧ s.toList.takeWhile (· != '/') = addressText := by
  have hbefore : ∀ c ∈ addressText, (c != '/') = true := by
    intro c hc
    refine bne_iff_ne.mpr ?_
    rintro rfl
    exact hslash hc
  rw [hs, List.dropWhile_append_of_pos hbefore, List.takeWhile_append_of_pos hbefore]
  exact ⟨rfl, List.append_nil addressText⟩

/-- A text is cut at its first slash, and what is before it has none. -/
theorem slash_of_cut {sign : Char} {lengthText : List Char}
    (h : s.toList.dropWhile (· != '/') = sign :: lengthText) :
    s.toList = s.toList.takeWhile (· != '/') ++ '/' :: lengthText ∧ '/' ∉ s.toList.takeWhile (· != '/') := by
  have hsign : sign = '/' := by
    have hhead := List.head?_dropWhile_not (· != '/') s.toList
    rw [h] at hhead
    exact bne_eq_false_iff_eq.mp hhead
  rw [hsign] at h
  refine ⟨?_, ?_⟩
  · rw [← h, List.takeWhile_append_dropWhile]
  · intro hslash
    cases List.all_eq_true.mp List.all_takeWhile '/' hslash

/-- **What is spelled is read, unless the length is too long for a byte or for the address.** -/
theorem parse_of_spells (h : Spells s a length) :
    parse s =
      if 255 < length then .error (.badPrefixLength .tooLarge)
      else if hlength : length ≤ a.family.width then .ok ⟨a, length, hlength⟩
      else .error (.prefixLengthTooLong length a.family.width) := by
  obtain ⟨addressText, lengthText, hs, hslash, haddress, hnumber⟩ := h
  obtain ⟨hafter, hbefore⟩ := cut_of_slash hs hslash
  unfold parse
  simp only [hafter, hbefore, haddress, parseLength_of_states hnumber]
  by_cases hlarge : 255 < length
  · simp only [if_pos hlarge]
  · simp only [if_neg hlarge]

/-- **A network is read from what spells it, and from nothing else.** -/
theorem parse_eq_ok_iff : parse s = .ok c ↔ Spells s c.address c.prefixLength := by
  constructor
  · intro h
    unfold parse at h
    -- the cases are the ways to be refused, each of which has an error of its own
    cases hafter : s.toList.dropWhile (· != '/') with
    | nil => simp only [hafter, reduceCtorEq] at h
    | cons sign lengthText =>
      obtain ⟨hs, hslash⟩ := slash_of_cut hafter
      cases haddress : Address.parse? (s.toList.takeWhile (· != '/')) with
      | none => simp only [hafter, haddress, reduceCtorEq] at h
      | some address =>
        cases hnumber : parseLength lengthText with
        | error cause => simp only [hafter, haddress, hnumber, reduceCtorEq] at h
        | ok length =>
          simp only [hafter, haddress, hnumber] at h
          by_cases hlength : length ≤ address.family.width
          · rw [dif_pos hlength] at h
            obtain rfl := Except.ok.inj h
            exact ⟨_, lengthText, hs, hslash, haddress, states_of_parseLength hnumber⟩
          · rw [dif_neg hlength] at h
            cases h
  · intro h
    have hwidth : c.address.family.width ≤ 128 := by
      cases c.address.family <;> decide
    have hbyte : ¬ 255 < c.prefixLength := by
      have hlength := c.prefixLength_le
      omega
    rw [parse_of_spells h, if_neg hbyte, dif_pos c.prefixLength_le]

/-- The text of a network spells it. -/
theorem spells_text (c : Cidr) : Spells c.text c.address c.prefixLength := by
  obtain ⟨hdigits, hnumber⟩ := leads_iff.mp (leads_decimalText c.prefixLength)
  refine ⟨c.address.text, decimalText c.prefixLength, String.toList_ofList, ?_, ?_, ?_⟩
  · exact slash_not_mem_of_hasText (hasText_text c.address)
  · exact parse?_of_hasText (hasText_text c.address)
  · exact ⟨_, .inl rfl, Nat.toDigits_ne_nil, hdigits, hnumber⟩

end Parse

/-- What the text of a network is good for. -/
structure FaithfulText (c : Cidr) : Prop where
  parse_text : parse c.text = .ok c
  /-- Networks are told apart by their texts, whatever texts they were read from. -/
  eq_iff : ∀ other : Cidr, c = other ↔ c.text = other.text
  spelled_iff : ∀ s, parse s = .ok c ↔ Spells s c.address c.prefixLength
  /-- A length beyond the address is refused, whether it has a place in a byte or not. -/
  tooLong : ∀ s length, Spells s c.address length → c.address.family.width < length →
    parse s =
      .error (if 255 < length then .badPrefixLength .tooLarge
        else .prefixLengthTooLong length c.address.family.width)
  /-- Around the slash there are the one text of the address and a length without leading zeros. -/
  text_iff : ∀ s : String, s = c.text ↔
    ∃ cs, c.address.HasText cs ∧ s.toList = cs ++ '/' :: Nat.toDigits 10 c.prefixLength

/-- **The text of a network stands for the network.** -/
theorem faithfulText (c : Cidr) : FaithfulText c := by
  have hparse (d : Cidr) : parse d.text = .ok d := parse_eq_ok_iff.mpr (spells_text d)
  constructor
  case parse_text => exact hparse c
  case eq_iff =>
    intro other
    refine ⟨congrArg text, ?_⟩
    intro htext
    -- a text is read as one network, so two networks with one text are the same
    have hsame : (.ok c : Except CidrError Cidr) = .ok other := by
      rw [← hparse c, ← hparse other, htext]
    exact Except.ok.inj hsame
  case spelled_iff => exact fun s => parse_eq_ok_iff
  case tooLong =>
    intro s length hspells hlong
    -- a length that does not fit a byte is refused as such, and before it is compared
    rw [parse_of_spells hspells, dif_neg (Nat.not_le.mpr hlong)]
    by_cases hlarge : 255 < length
    · rw [if_pos hlarge, if_pos hlarge]
    · rw [if_neg hlarge, if_neg hlarge]
  case text_iff =>
    intro s
    constructor
    · rintro rfl
      exact ⟨c.address.text, hasText_text c.address, String.toList_ofList⟩
    · rintro ⟨cs, hcs, hs⟩
      obtain rfl := hasText_iff.mp hcs
      exact String.toList_inj.mp (hs.trans String.toList_ofList.symm)

example : (parse "2001:DB8:0:0:0:1:192.0.2.33/+048").map text = .ok "2001:db8::1:c000:221/48" := by rfl

end Cidr

end OpenstackAdmission.Net
