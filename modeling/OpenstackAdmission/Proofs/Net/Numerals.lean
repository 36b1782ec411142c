import OpenstackAdmission.Net.Address

/-!
# Numbers in the texts of addresses

The parts of an address are written in base ten or sixteen, without leading zeros, and are read by one reader, which
takes digits from the front until there are enough of them. What may stand behind a number is what keeps the reader
from going on: an end, or a sign that is no digit (`NoDigit`).

> `scanOctet?_decimalText`, `scanGroup?_hexDigits`: a part is read back, whatever stands behind it.

`Leads` is what reader and writer have in common: which number digits lead to from the number before them.
-/

namespace OpenstackAdmission.Net.Address

section Digits

variable {value? : Char → Option Nat} {base count n m taken : Nat} {cs digits rest : List Char}

/-- These digits lead from a number to another one. -/
inductive Leads (value? : Char → Option Nat) (base : Nat) : Nat → List Char → Nat → Prop where
  | nil (n : Nat) : Leads value? base n [] n
  | cons {n v m : Nat} {c : Char} {digits : List Char} (hc : value? c = some v)
    (h : Leads value? base (n * base + v) digits m) : Leads value? base n (c :: digits) m

/-- No digit stands at the front. -/
def NoDigit (value? : Char → Option Nat) (rest : List Char) : Prop := ∀ c ∈ rest.head?, value? c = none

theorem noDigit_nil : NoDigit value? [] := nofun

theorem noDigit_cons {c : Char} (hc : value? c = none) (rest : List Char) : NoDigit value? (c :: rest) := by
  intro first hfirst
  obtain rfl := Option.some.inj hfirst
  exact hc

theorem NoDigit.any_head? {isDigit : Char → Bool} (h : NoDigit value? rest)
    (hdigit : ∀ c, value? c = none → isDigit c = false) : rest.head?.any isDigit = false := by
  cases rest with
  | nil => rfl
  | cons c rest => exact hdigit c (h c rfl)

theorem Leads.append {k : Nat} {others : List Char} (h : Leads value? base n digits m)
    (hothers : Leads value? base m others k) : Leads value? base n (digits ++ others) k := by
  induction h with
  | nil n => exact hothers
  | cons hc _ ih => exact .cons hc (ih hothers)

theorem Leads.isSome_of_mem (h : Leads value? base n digits m) {c : Char} (hc : c ∈ digits) :
    (value? c).isSome := by
  induction h with
  | nil n => cases hc
  | cons hfirst _ ih =>
    cases hc with
    | head => exact Option.isSome_of_eq_some hfirst
    | tail _ hc => exact ih hc

theorem Leads.single {v : Nat} {c : Char} (hc : value? c = some v) (h : n * base + v = m) :
    Leads value? base n [c] m := by
  refine .cons hc ?_
  rw [h]
  exact .nil m

/-- What is written leads to the number that is written. -/
theorem leads_toDigits (hbase : 1 < base) (hvalue : ∀ d < base, value? (Nat.digitChar d) = some d) (n : Nat) :
    Leads value? base 0 (Nat.toDigits base n) n := by
  -- on the number, whose last digit is the last one that is written
  induction n using Nat.strongRecOn with
  | ind n ih =>
    by_cases hlt : n < base
    · rw [Nat.toDigits_of_lt_base hlt]
      exact .single (hvalue n hlt) (by omega)
    · have hle : base ≤ n := Nat.le_of_not_lt hlt
      have hfront : Leads value? base 0 (Nat.toDigits base (n / base)) (n / base) :=
        ih (n / base) (Nat.div_lt_self (by omega) hbase)
      rw [Nat.toDigits_of_base_le hbase hle]
      exact hfront.append (.single (hvalue _ (Nat.mod_lt n (by omega))) (Nat.div_add_mod' n base))

/-- Digits are read up to what is no digit, if there are not too many of them. -/
theorem scanDigits_of_leads (h : Leads value? base n digits m) (hcount : digits.length ≤ count)
    (hrest : NoDigit value? rest) :
    scanDigits value? base count n (digits ++ rest) = (digits.length, m, rest) := by
  induction h generalizing count with
  | nil n =>
    cases count with
    | zero => rfl
    | succ count =>
      cases rest with
      | nil => rfl
      -- the reader has room for another digit and finds none
      | cons c rest =>
        have hc : value? c = none := hrest c rfl
        unfold scanDigits
        simp only [List.nil_append, hc]
        rfl
  | @cons n v m c digits hc _ ih =>
    cases count with
    | zero => exact absurd hcount (Nat.not_succ_le_zero _)
    | succ count =>
      rw [List.length_cons, Nat.succ_le_succ_iff] at hcount
      rw [List.cons_append, scanDigits]
      simp only [hc, ih hcount, List.length_cons]

/-- Where no digit stands, nothing is read. -/
theorem scanDigits_of_noDigit (h : NoDigit value? cs) : scanDigits value? base count n cs = (0, n, cs) :=
  scanDigits_of_leads (.nil n) (Nat.zero_le count) h

/-- Whatever is read are digits from the front. -/
theorem exists_leads_of_scanDigits (h : scanDigits value? base count n cs = (taken, m, rest)) :
    ∃ digits, cs = digits ++ rest ∧ digits.length = taken ∧ Leads value? base n digits m := by
  -- the induction is on the room that is left, as the reader ends there too
  induction count generalizing n cs taken with
  | zero =>
    obtain ⟨rfl, rfl, rfl⟩ : 0 = taken ∧ n = m ∧ cs = rest := by simpa [scanDigits] using h
    exact ⟨[], rfl, rfl, .nil _⟩
  | succ count ih =>
    cases cs with
    | nil =>
      obtain ⟨rfl, rfl, rfl⟩ : 0 = taken ∧ n = m ∧ [] = rest := by simpa [scanDigits] using h
      exact ⟨[], rfl, rfl, .nil _⟩
    | cons c cs =>
      cases hc : value? c with
      | none =>
        obtain ⟨rfl, rfl, rfl⟩ : 0 = taken ∧ n = m ∧ c :: cs = rest := by simpa [scanDigits, hc] using h
        exact ⟨[], rfl, rfl, .nil _⟩
      | some v =>
        rcases hscan : scanDigits value? base count (n * base + v) cs with ⟨more, k, others⟩
        obtain ⟨rfl, rfl, rfl⟩ : more + 1 = taken ∧ k = m ∧ others = rest := by
          simpa [scanDigits, hc, hscan] using h
        obtain ⟨digits, rfl, hlength, hleads⟩ := ih hscan
        exact ⟨c :: digits, rfl, congrArg (· + 1) hlength, .cons hc hleads⟩

end Digits

/-! ## Octets and groups -/

section Parts

variable {n : Nat} {rest : List Char}

theorem digitValue?_eq_none_iff {c : Char} : digitValue? c = none ↔ c.isDigit = false := by
  unfold digitValue?
  cases c.isDigit <;> simp

theorem isHexDigit_of_hexValue? {c : Char} (hc : Text.hexValue? c = none) : Text.isHexDigit c = false := by
  unfold Text.isHexDigit
  rw [hc]
  rfl

theorem leads_decimalText (n : Nat) : Leads digitValue? 10 0 (decimalText n) n :=
  leads_toDigits (by decide) (by decide) n

theorem leads_hexDigits (n : Nat) : Leads Text.hexValue? 16 0 (Text.hexDigits n) n :=
  leads_toDigits (by decide) (by decide) n

/-- No number but zero is written with a zero in front. -/
theorem eq_zero_of_head?_decimalText (h : (decimalText n).head? = some '0') : n = 0 := by
  unfold decimalText at h
  induction n using Nat.strongRecOn with
  | ind n ih =>
    by_cases hlt : n < 10
    · have hzero : ∀ d < 10, Nat.digitChar d = '0' → d = 0 := by decide
      rw [Nat.toDigits_of_lt_base hlt] at h
      exact hzero n hlt (Option.some.inj h)
    · obtain ⟨c, digits, hdigits⟩ := List.exists_cons_of_ne_nil (Nat.toDigits_ne_nil (n := n / 10) (b := 10))
      have hfront : (Nat.toDigits 10 (n / 10)).head? = some '0' := by
        rw [Nat.toDigits_of_base_le (by decide) (Nat.le_of_not_lt hlt), hdigits] at h
        rw [hdigits]
        exact h
      have hnone : n / 10 = 0 := ih (n / 10) (by omega) hfront
      omega

/-- **An octet is read back.** -/
theorem scanOctet?_decimalText (hn : n ≤ 255) (hrest : NoDigit digitValue? rest) :
    scanOctet? (decimalText n ++ rest) = some (n, rest) := by
  have hlength : (decimalText n).length ≤ 3 :=
    (Nat.length_toDigits_le_iff (by decide) (by decide)).mpr (by omega)
  have hscan := scanDigits_of_leads (leads_decimalText n) hlength hrest
  obtain ⟨c, digits, hdigits⟩ := List.exists_cons_of_ne_nil (Nat.toDigits_ne_nil (n := n) (b := 10))
  change decimalText n = c :: digits at hdigits
  -- a zero in front is the only digit
  have hzero : c = '0' → digits.length = 0 := by
    rintro rfl
    obtain rfl : n = 0 := eq_zero_of_head?_decimalText (congrArg List.head? hdigits)
    exact (Nat.succ.inj (congrArg List.length hdigits)).symm
  have hleading : (decide (c = '0') && decide (digits.length + 1 ≠ 1)) = false := by
    by_cases hc : c = '0'
    · simp [hzero hc]
    · simp [hc]
  have hbound : ¬ 255 < n := Nat.not_lt.mpr hn
  have hnext : rest.head?.any Char.isDigit = false := hrest.any_head? fun _ => digitValue?_eq_none_iff.mp
  rw [hdigits, List.cons_append] at hscan ⊢
  unfold scanOctet?
  simp only [hscan, List.length_cons, List.head?_cons, Option.some.injEq, hleading, hbound,
    hnext, decide_false, Bool.or_self, Bool.false_eq_true, if_false]

/-- **A group is read back.** -/
theorem scanGroup?_hexDigits (hn : n < 65536) (hrest : NoDigit Text.hexValue? rest) :
    scanGroup? (Text.hexDigits n ++ rest) = some (n, rest) := by
  have hlength : (Text.hexDigits n).length ≤ 4 :=
    (Nat.length_toDigits_le_iff (by decide) (by decide)).mpr (by omega)
  have hscan := scanDigits_of_leads (leads_hexDigits n) hlength hrest
  obtain ⟨c, digits, hdigits⟩ := List.exists_cons_of_ne_nil (Nat.toDigits_ne_nil (n := n) (b := 16))
  change Text.hexDigits n = c :: digits at hdigits
  have hnext : rest.head?.any Text.isHexDigit = false := hrest.any_head? fun _ => isHexDigit_of_hexValue?
  rw [hdigits] at hscan ⊢
  unfold scanGroup?
  simp only [hscan, List.length_cons, hnext]
  rfl

end Parts

end OpenstackAdmission.Net.Address
