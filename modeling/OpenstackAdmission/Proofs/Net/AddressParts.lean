import OpenstackAdmission.Proofs.Net.Numerals

/-!
# Octets and groups in the texts of addresses

Octets stand between dots and groups between colons, and both are read from the front of a text. Before every group
the reader asks whether octets begin here, since an IPv6 address may end with them. It is not led astray: octets have
dots between them, and groups have none (`scanOctets?_of_noDot`).

> `scanOctets?_octetsText`, `scanGroups_groupsText`: octets and groups are read back from their texts.

Groups are read up to an end or up to a gap. A text with a gap is read in two halves, and the gap is filled with as
many zeros as make eight groups (`parseGroups?_gap`).
-/

namespace OpenstackAdmission.Net.Address

/-! ## Signs between the parts -/

/-- A text of parts is made of the sign and of what the parts are made of. -/
theorem of_mem_joined {sign c : Char} {parts : List (List Char)} (h : c ∈ joined sign parts) :
    c = sign ∨ ∃ part ∈ parts, c ∈ part := by
  induction parts with
  | nil => cases h
  | cons part parts ih =>
    cases parts with
    | nil => exact .inr ⟨part, List.mem_cons_self, h⟩
    | cons next parts =>
      rcases List.mem_append.mp h with hpart | hrest
      · exact .inr ⟨part, List.mem_cons_self, hpart⟩
      · cases hrest with
        | head => exact .inl rfl
        | tail _ hrest =>
          rcases ih hrest with hsign | ⟨other, hother, hc⟩
          · exact .inl hsign
          · exact .inr ⟨other, List.mem_cons_of_mem _ hother, hc⟩

theorem of_mem_octetsText {octets : List Nat} {c : Char} (h : c ∈ octetsText octets) :
    (digitValue? c).isSome ∨ c = '.' := by
  rcases of_mem_joined h with rfl | ⟨part, hpart, hc⟩
  · exact .inr rfl
  · obtain ⟨octet, -, rfl⟩ := List.mem_map.mp hpart
    exact .inl ((leads_decimalText octet).isSome_of_mem hc)

theorem of_mem_groupsText {groups : List Nat} {c : Char} (h : c ∈ groupsText groups) :
    (Text.hexValue? c).isSome ∨ c = ':' := by
  rcases of_mem_joined h with rfl | ⟨part, hpart, hc⟩
  · exact .inr rfl
  · obtain ⟨group, -, rfl⟩ := List.mem_map.mp hpart
    exact .inl ((leads_hexDigits group).isSome_of_mem hc)

theorem dot_not_mem_groupsText (groups : List Nat) : '.' ∉ groupsText groups := by
  intro h
  rcases of_mem_groupsText h with hdigit | hcolon
  · cases hdigit
  · cases hcolon

/-! ## Octets -/

section Octets

variable {cs rest : List Char} {n : Nat}

/-- What an octet leaves is the end of what it was read from. -/
theorem suffix_of_scanOctet? (h : scanOctet? cs = some (n, rest)) : rest <:+ cs := by
  unfold scanOctet? at h
  split at h
  next => cases h
  next taken m others _ hscan =>
    obtain ⟨digits, rfl, -, -⟩ := exists_leads_of_scanDigits hscan
    split at h
    next => cases h
    next =>
      obtain ⟨-, rfl⟩ := Prod.mk.inj (Option.some.inj h)
      exact List.suffix_append digits others

theorem scanOctets?_of_noDigit (h : NoDigit digitValue? cs) : scanOctets? cs = none := by
  unfold scanOctets? scanOctet?
  rw [scanDigits_of_noDigit h]
  rfl

/-- No octets without dots. -/
theorem scanOctets?_of_noDot (h : '.' ∉ cs) : scanOctets? cs = none := by
  unfold scanOctets?
  cases hfirst : scanOctet? cs with
  | none => rfl
  | some found =>
    obtain ⟨n, rest⟩ := found
    -- behind the first octet there would have to be a dot
    have hafter : after? '.' rest = none := by
      cases rest with
      | nil => rfl
      | cons c rest =>
        refine if_neg ?_
        rintro rfl
        exact h ((suffix_of_scanOctet? hfirst).mem List.mem_cons_self)
    show (after? '.' rest).bind _ = none
    rw [hafter]
    rfl

/-- **Octets are read back.** -/
theorem scanOctets?_octetsText {octets : List Nat} (hlength : octets.length = 4)
    (hle : ∀ octet ∈ octets, octet ≤ 255) (hrest : NoDigit digitValue? rest) :
    scanOctets? (octetsText octets ++ rest) = some (octets, rest) := by
  match octets, hlength with
  | [a, b, c, d], _ =>
    -- every octet but the last one ends at a dot
    have hdot (more : List Char) : NoDigit digitValue? ('.' :: more) := noDigit_cons rfl more
    have ha : a ≤ 255 := hle a (.head _)
    have hb : b ≤ 255 := hle b (.tail _ (.head _))
    have hc : c ≤ 255 := hle c (.tail _ (.tail _ (.head _)))
    have hd : d ≤ 255 := hle d (.tail _ (.tail _ (.tail _ (.head _))))
    have htext : octetsText [a, b, c, d] ++ rest = decimalText a ++ '.' :: (decimalText b ++ '.' ::
        (decimalText c ++ '.' :: (decimalText d ++ rest))) := by
      simp [octetsText, joined]
    have hnext (more : List Char) : after? '.' ('.' :: more) = some more := rfl
    rw [htext]
    unfold scanOctets?
    simp only [scanOctet?_decimalText ha (hdot _), scanOctet?_decimalText hb (hdot _),
      scanOctet?_decimalText hc (hdot _), scanOctet?_decimalText hd hrest, hnext, Option.bind_eq_bind,
      Option.bind_some]
    rfl

end Octets

/-! ## Groups -/

/-- Groups are at an end, or where some of them are left out. -/
def GroupsEnd (rest : List Char) : Prop := rest = [] ∨ ∃ more, rest = ':' :: ':' :: more

section Groups

variable {cs start more rest : List Char} {first dotted : Bool} {limit g : Nat} {groups front back : List Nat}

theorem noDigit_of_hex (h : NoDigit Text.hexValue? cs) : NoDigit digitValue? cs := by
  intro c hc
  have hhex : Text.hexValue? c = none := h c hc
  rw [digitValue?_eq_none_iff]
  unfold Text.hexValue? at hhex
  split at hhex
  next => cases hhex
  next hdigit => exact Bool.eq_false_iff.mpr hdigit

theorem GroupsEnd.noDigit (h : GroupsEnd rest) : NoDigit Text.hexValue? rest := by
  rcases h with rfl | ⟨more, rfl⟩
  · exact noDigit_nil
  · exact noDigit_cons rfl _

theorem scanGroup?_of_noDigit (h : NoDigit Text.hexValue? cs) : scanGroup? cs = none := by
  unfold scanGroup?
  rw [scanDigits_of_noDigit h]
  rfl

/-- No group is read where no digit stands. -/
theorem scanGroups_stop (h : ∀ start, groupStart? first cs = some start → NoDigit Text.hexValue? start) :
    scanGroups first limit cs = ([], false, cs) := by
  cases limit with
  | zero => rfl
  | succ limit =>
    unfold scanGroups
    cases hstart : groupStart? first cs with
    | none => rfl
    | some start =>
      have hdigit : NoDigit Text.hexValue? start := h start hstart
      simp only [scanOctets?_of_noDigit (noDigit_of_hex hdigit), scanGroup?_of_noDigit hdigit, ite_self]

theorem GroupsEnd.scanGroups (h : GroupsEnd rest) (first : Bool) (limit : Nat) :
    scanGroups first limit rest = ([], false, rest) := by
  refine scanGroups_stop ?_
  intro start hstart
  cases first with
  | true =>
    obtain rfl := Option.some.inj hstart
    exact h.noDigit
  | false =>
    rcases h with rfl | ⟨more, rfl⟩
    · cases hstart
    · obtain rfl := Option.some.inj hstart
      exact noDigit_cons rfl more

/-- One group, and those behind it. -/
theorem scanGroups_step (hstart : groupStart? first cs = some start) (hoctets : scanOctets? start = none)
    (hgroup : scanGroup? start = some (g, more))
    (hmore : scanGroups false limit more = (groups, dotted, rest)) :
    scanGroups first (limit + 1) cs = (g :: groups, dotted, rest) := by
  unfold scanGroups
  simp only [hstart, hoctets, ite_self, hgroup, hmore]

/-- **Groups are read back,** up to an end or to a gap. -/
theorem scanGroups_groupsText (hne : groups ≠ []) (hlt : ∀ g ∈ groups, g < 65536)
    (hlimit : groups.length ≤ limit) (hstart : groupStart? first cs = some (groupsText groups ++ rest))
    (hdot : '.' ∉ rest) (hend : GroupsEnd rest) : scanGroups first limit cs = (groups, false, rest) := by
  -- on the groups: the next one stands behind a colon and is not the first any more
  induction groups generalizing first cs limit with
  | nil => exact absurd rfl hne
  | cons g groups ih =>
    cases limit with
    | zero => exact absurd hlimit (Nat.not_succ_le_zero _)
    | succ limit =>
      have hoctets : scanOctets? (groupsText (g :: groups) ++ rest) = none := by
        refine scanOctets?_of_noDot ?_
        rw [List.mem_append, not_or]
        exact ⟨dot_not_mem_groupsText _, hdot⟩
      have hg : g < 65536 := hlt g List.mem_cons_self
      cases groups with
      | nil =>
        exact scanGroups_step hstart hoctets (scanGroup?_hexDigits hg hend.noDigit)
          (hend.scanGroups false limit)
      | cons next groups =>
        have htext : groupsText (g :: next :: groups) ++ rest =
            Text.hexDigits g ++ ':' :: (groupsText (next :: groups) ++ rest) := by
          simp [groupsText, joined]
        rw [htext] at hstart hoctets
        refine scanGroups_step hstart hoctets (scanGroup?_hexDigits hg (noDigit_cons rfl _)) ?_
        refine ih (List.cons_ne_nil _ _) (fun g hg => hlt g (List.mem_cons_of_mem _ hg)) ?_ rfl
        exact Nat.le_of_succ_le_succ hlimit

/-- The same from the front of a text, where there may be no group. -/
theorem scanGroups_front (hlt : ∀ g ∈ groups, g < 65536) (hlimit : groups.length ≤ limit)
    (hdot : '.' ∉ rest) (hend : GroupsEnd rest) :
    scanGroups true limit (groupsText groups ++ rest) = (groups, false, rest) := by
  cases groups with
  | nil => exact hend.scanGroups true limit
  | cons g groups => exact scanGroups_groupsText (List.cons_ne_nil _ _) hlt hlimit rfl hdot hend

/-- Eight groups are read back. -/
theorem parseGroups?_groupsText (hlength : groups.length = 8) (hlt : ∀ g ∈ groups, g < 65536) :
    parseGroups? (groupsText groups) = some groups := by
  have hscan := scanGroups_front hlt (Nat.le_of_eq hlength) List.not_mem_nil (.inl rfl)
  rw [List.append_nil] at hscan
  unfold parseGroups?
  simp only [hscan, hlength, if_true]

/-- Fewer groups are read back with zeros in the gap. -/
theorem parseGroups?_gap {length : Nat} (hlength : front.length + length + back.length = 8)
    (hgap : 2 ≤ length) (hfront : ∀ g ∈ front, g < 65536) (hback : ∀ g ∈ back, g < 65536) :
    parseGroups? (groupsText front ++ [':', ':'] ++ groupsText back) =
      some (front ++ List.replicate length 0 ++ back) := by
  have hdot : '.' ∉ ':' :: ':' :: groupsText back := by
    simp only [List.mem_cons, Char.reduceEq, false_or]
    exact dot_not_mem_groupsText back
  have hfrontLimit : front.length ≤ 8 := by omega
  have hbackLimit : back.length ≤ 7 - front.length := by omega
  have hscanFront := scanGroups_front hfront hfrontLimit hdot (.inr ⟨_, rfl⟩)
  have hscanBack := scanGroups_front hback hbackLimit List.not_mem_nil (.inl rfl)
  rw [List.append_nil] at hscanBack
  have hshort : ¬ front.length = 8 := by omega
  have hzeros : 8 - front.length - back.length = length := by omega
  rw [List.append_assoc]
  unfold parseGroups?
  simp only [List.cons_append, List.nil_append, hscanFront, hscanBack, hshort, hzeros, if_false,
    Bool.false_eq_true]

/-- Mapped octets are read back as the last two groups. -/
theorem parseGroups?_mapped {octets : List Nat} (hlength : octets.length = 4)
    (hle : ∀ octet ∈ octets, octet ≤ 255) :
    parseGroups? ("::ffff:".toList ++ octetsText octets) =
      some (List.replicate 5 0 ++ 0xffff :: groupsOfOctets octets) := by
  have hoctets : scanOctets? (octetsText octets) = some (octets, []) := by
    rw [← List.append_nil (octetsText octets)]
    exact scanOctets?_octetsText hlength hle noDigit_nil
  -- of seven groups behind the gap one is read before the octets, which need two
  have hlast : scanGroups false 6 (':' :: octetsText octets) = (groupsOfOctets octets, true, []) := by
    unfold scanGroups
    simp only [groupStart?, after?, Bool.false_eq_true, if_false, if_true, hoctets, Nat.reduceEqDiff]
  have hgroup : scanGroup? (Text.hexDigits 0xffff ++ ':' :: octetsText octets) =
      some (0xffff, ':' :: octetsText octets) :=
    scanGroup?_hexDigits (by decide) (noDigit_cons rfl _)
  have hback : scanGroups true 7 ("ffff:".toList ++ octetsText octets) =
      (0xffff :: groupsOfOctets octets, true, []) :=
    scanGroups_step rfl (scanOctets?_of_noDigit (noDigit_cons rfl _)) hgroup hlast
  -- no group stands before the gap
  have hfront : scanGroups true 8 ("::ffff:".toList ++ octetsText octets) =
      ([], false, ':' :: ':' :: ("ffff:".toList ++ octetsText octets)) :=
    GroupsEnd.scanGroups (.inr ⟨_, rfl⟩) true 8
  have hgroups : (groupsOfOctets octets).length = 2 := by
    match octets, hlength with
    | [a, b, c, d], _ => rfl
  unfold parseGroups?
  rw [hfront]
  simp only [List.length_nil, Nat.reduceEqDiff, if_false, Bool.false_eq_true, Nat.sub_zero, hback,
    List.length_cons, hgroups, Nat.reduceAdd, Nat.reduceSub, List.nil_append]

end Groups

end OpenstackAdmission.Net.Address
