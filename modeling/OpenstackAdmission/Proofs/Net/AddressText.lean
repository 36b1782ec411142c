import OpenstackAdmission.Proofs.Net.AddressParts
import OpenstackAdmission.Proofs.Net.ZeroRuns

/-!
# Texts of addresses

An IPv4 address is written as four octets. An IPv6 address is written as eight groups, of which a run of zeros is
left out if there is one of at least two; addresses of IPv4 that are mapped into IPv6 keep their octets behind the
groups.

> `hasText_iff`: every address has one text, which is the one that is written (`HasText`).
> `parse?_of_hasText`: the text reads back as the address.

The reader tries octets first, then groups, and it accepts gaps anywhere. For each form of a text it has to be seen
that no other reading comes before the right one.
-/

namespace OpenstackAdmission.Net

/-! ## Numbers and their parts -/

section Parts

variable {base count n : Nat}

theorem length_splitParts : (splitParts base count n).length = count := by
  induction count generalizing n with
  | zero => rfl
  | succ count ih => rw [splitParts, List.length_append, ih, List.length_singleton]

theorem lt_of_mem_splitParts (hbase : 0 < base) {part : Nat} (h : part ∈ splitParts base count n) :
    part < base := by
  induction count generalizing n with
  | zero => cases h
  | succ count ih =>
    rw [splitParts, List.mem_append] at h
    rcases h with hfront | hlast
    · exact ih hfront
    · obtain rfl := List.mem_singleton.mp hlast
      exact Nat.mod_lt n hbase

/-- Enough parts hold the whole number. -/
theorem joinParts_splitParts (h : n < Nat.pow base count) : joinParts base (splitParts base count n) = n := by
  induction count generalizing n with
  | zero => exact (Nat.lt_one_iff.mp h).symm
  | succ count ih =>
    have hfront : n / base < Nat.pow base count := Nat.div_lt_of_lt_mul (Nat.mul_comm _ base ▸ h)
    have hjoin : joinParts base (splitParts base count (n / base)) = n / base := ih hfront
    unfold joinParts at hjoin ⊢
    rw [splitParts, List.foldl_append, hjoin]
    exact Nat.div_add_mod' n base

/-- Four octets of a number that has no more. -/
theorem octet_le_of_mem {octet : Nat} (h : octet ∈ splitParts 256 4 n) : octet ≤ 255 :=
  Nat.le_of_lt_succ (lt_of_mem_splitParts (by decide) h)

end Parts

namespace Address

/-- An address is its family and its number. -/
theorem ofNat_bits (a : Address) : ofNat a.family a.bits = a := by
  obtain ⟨family, bits, hbits⟩ := a
  unfold ofNat
  simp only [Nat.mod_eq_of_lt hbits]

/-! ## Addresses -/

/-- The text of an address: its octets with dots, also behind those that are mapped into IPv6, or its groups with
colons, of which the first of the longest runs of at least two zeros is left out. -/
inductive HasText (a : Address) : List Char → Prop where
  | octets (hfamily : a.family = .v4) : HasText a (octetsText (splitParts 256 4 a.bits))
  | mapped (hfamily : a.family = .v6) (hmapped : a.bits / Nat.pow 2 32 = 0xffff) :
    HasText a ("::ffff:".toList ++ octetsText (splitParts 256 4 (a.bits % Nat.pow 2 32)))
  | groups (hfamily : a.family = .v6) (hunmapped : a.bits / Nat.pow 2 32 ≠ 0xffff)
    (hnone : ∀ start, ¬ ZeroRun (splitParts 65536 8 a.bits) start 2) :
    HasText a (groupsText (splitParts 65536 8 a.bits))
  | gap {start length : Nat} (hfamily : a.family = .v6) (hunmapped : a.bits / Nat.pow 2 32 ≠ 0xffff)
    (hrun : LongestZeroRun (splitParts 65536 8 a.bits) start length) (hlong : 2 ≤ length) :
    HasText a (groupsText ((splitParts 65536 8 a.bits).take start) ++ "::".toList ++
      groupsText ((splitParts 65536 8 a.bits).drop (start + length)))

section Text

variable {a : Address} {cs : List Char}

/-- An address has the text that is written for it. -/
theorem hasText_text (a : Address) : a.HasText a.text := by
  unfold text
  cases hfamily : a.family with
  | v4 => exact .octets hfamily
  | v6 =>
    by_cases hmapped : a.bits / Nat.pow 2 32 = 0xffff
    · simp only [if_pos hmapped]
      exact .mapped hfamily hmapped
    · simp only [if_neg hmapped]
      unfold textOfGroups
      rcases hzeros : longestZeros (splitParts 65536 8 a.bits) with ⟨start, length⟩
      have hrun := longestZeroRun hzeros
      by_cases hlong : 2 ≤ length
      · simp only [if_pos hlong]
        exact .gap hfamily hmapped hrun hlong
      · simp only [if_neg hlong]
        exact .groups hfamily hmapped fun start hpair => hlong (hrun.longest start 2 hpair)

/-- **An address has one text,** the one that is written for it. -/
theorem hasText_iff : a.HasText cs ↔ cs = a.text := by
  constructor
  · intro h
    unfold text
    cases h with
    | octets hfamily => simp only [hfamily]
    | mapped hfamily hmapped => simp only [hfamily, if_pos hmapped]
    | groups hfamily hunmapped hnone =>
      unfold textOfGroups
      rcases hzeros : longestZeros (splitParts 65536 8 a.bits) with ⟨start, length⟩
      -- a longer run would begin with two zeros
      have hshort : ¬ 2 ≤ length := fun hlong => hnone start ((longestZeroRun hzeros).zeros.mono hlong)
      simp only [hfamily, if_neg hunmapped, if_neg hshort]
    | gap hfamily hunmapped hrun hlong =>
      unfold textOfGroups
      rcases hzeros : longestZeros (splitParts 65536 8 a.bits) with ⟨start, length⟩
      obtain ⟨rfl, rfl⟩ := hrun.unique (longestZeroRun hzeros)
      simp only [hfamily, if_neg hunmapped, if_pos hlong]
      rfl
  · rintro rfl
    exact hasText_text a

theorem eq_of_bits {family : Family} (hfamily : a.family = family) {n : Nat} (hbits : n = a.bits) :
    ofNat family n = a := by
  rw [← hfamily, hbits]
  exact ofNat_bits a

theorem bits_lt_of_family {family : Family} (hfamily : a.family = family) : a.bits < Nat.pow 2 family.width :=
  hfamily ▸ a.bits_lt

/-- Octets that make up a number below them are read as this number. -/
theorem scanOctets?_split (n : Nat) :
    scanOctets? (octetsText (splitParts 256 4 n)) = some (splitParts 256 4 n, []) := by
  rw [← List.append_nil (octetsText _)]
  exact scanOctets?_octetsText length_splitParts (fun _ => octet_le_of_mem) noDigit_nil

/-- The two groups of four octets hold the number of the octets. -/
theorem joinParts_groupsOfOctets {octets : List Nat} (hlength : octets.length = 4) :
    joinParts 65536 (List.replicate 5 0 ++ 0xffff :: groupsOfOctets octets) =
      0xffff * 4294967296 + joinParts 256 octets := by
  match octets, hlength with
  | [a, b, c, d], _ =>
    simp only [joinParts, groupsOfOctets, List.replicate, List.cons_append, List.nil_append, List.foldl_cons,
      List.foldl_nil]
    omega

/-- The groups of an address that is mapped to the older family: five zeros, a mark, and the four octets in
two groups. -/
theorem joinParts_mapped {n : Nat} (hmapped : n / Nat.pow 2 32 = 0xffff) :
    joinParts 65536 (List.replicate 5 0 ++ 0xffff :: groupsOfOctets (splitParts 256 4 (n % Nat.pow 2 32))) =
      n := by
  have hlow : n % Nat.pow 2 32 < Nat.pow 256 4 := Nat.mod_lt n (by decide)
  rw [joinParts_groupsOfOctets length_splitParts, joinParts_splitParts hlow, ← hmapped]
  exact Nat.div_add_mod' n (Nat.pow 2 32)

/-- An address is that of its groups, if the text does not start with octets. -/
theorem parse?_of_parseGroups? {groups : List Nat} (hfamily : a.family = .v6) (hoctets : scanOctets? cs = none)
    (hgroups : parseGroups? cs = some groups) (hjoin : joinParts 65536 groups = a.bits) :
    parse? cs = some a := by
  unfold parse?
  rw [hoctets, hgroups]
  exact congrArg some (eq_of_bits hfamily hjoin)

/-- **The text of an address reads back as the address.** -/
theorem parse?_of_hasText (h : a.HasText cs) : parse? cs = some a := by
  cases h with
  | octets hfamily =>
    have hbits : a.bits < Nat.pow 256 4 := bits_lt_of_family hfamily
    unfold parse?
    rw [scanOctets?_split]
    exact congrArg some (eq_of_bits hfamily (joinParts_splitParts hbits))
  | mapped hfamily hmapped =>
    have hle : ∀ octet ∈ splitParts 256 4 (a.bits % Nat.pow 2 32), octet ≤ 255 := fun _ => octet_le_of_mem
    have hgroups := parseGroups?_mapped length_splitParts hle
    exact parse?_of_parseGroups? hfamily (scanOctets?_of_noDigit (noDigit_cons rfl _)) hgroups
      (joinParts_mapped hmapped)
  | groups hfamily hunmapped hnone =>
    have hbits : a.bits < Nat.pow 65536 8 := bits_lt_of_family hfamily
    have hoctets : scanOctets? (groupsText (splitParts 65536 8 a.bits)) = none :=
      scanOctets?_of_noDot (dot_not_mem_groupsText _)
    have hlt : ∀ g ∈ splitParts 65536 8 a.bits, g < 65536 := fun _ => lt_of_mem_splitParts (by decide)
    have hgroups := parseGroups?_groupsText length_splitParts hlt
    exact parse?_of_parseGroups? hfamily hoctets hgroups (joinParts_splitParts hbits)
  | @gap start length hfamily hunmapped hrun hlong =>
    have hbits : a.bits < Nat.pow 65536 8 := bits_lt_of_family hfamily
    have hlt : ∀ g ∈ splitParts 65536 8 a.bits, g < 65536 := fun _ => lt_of_mem_splitParts (by decide)
    -- the zeros of the run come back with the gap
    have happend := append_of_zeroRun hrun.zeros
    have hlength := congrArg List.length happend
    rw [List.length_append, List.length_append, List.length_replicate, length_splitParts] at hlength
    have hgroups := parseGroups?_gap hlength hlong (fun g hg => hlt g (List.mem_of_mem_take hg))
      (fun g hg => hlt g (List.mem_of_mem_drop hg))
    rw [happend] at hgroups
    refine parse?_of_parseGroups? hfamily (scanOctets?_of_noDot ?_) hgroups (joinParts_splitParts hbits)
    simp only [List.mem_append, not_or]
    exact ⟨⟨dot_not_mem_groupsText _, by decide⟩, dot_not_mem_groupsText _⟩

/-- No text of an address has a slash, so the first slash of a network is the one before the length. -/
theorem slash_not_mem_of_hasText (h : a.HasText cs) : '/' ∉ cs := by
  have hoctets (octets : List Nat) : '/' ∉ octetsText octets := by
    intro h
    rcases of_mem_octetsText h with hdigit | hdot
    · cases hdigit
    · cases hdot
  have hgroups (groups : List Nat) : '/' ∉ groupsText groups := by
    intro h
    rcases of_mem_groupsText h with hdigit | hcolon
    · cases hdigit
    · cases hcolon
  -- each form is made of octets, groups and colons
  cases h with
  | octets => exact hoctets _
  | mapped =>
    rw [List.mem_append, not_or]
    exact ⟨by decide, hoctets _⟩
  | groups => exact hgroups _
  | gap =>
    simp only [List.mem_append, not_or]
    exact ⟨⟨hgroups _, by decide⟩, hgroups _⟩

end Text

end Address

end OpenstackAdmission.Net
