import Mathlib.Data.List.TakeWhile
import Mathlib.Data.Nat.Digits.Defs
import Signpost.Host.Address
import Signpost.Proofs.Text.Decimal

/-!
# Normal forms of addresses

The normal form of an address is read as that address, so that reading a normal form and writing it again
changes nothing.

* `numeral?_toDigits`: digits in any radix up to 16 are read as their number.
* `Ipv4.read?_text`, `Ipv6.read?_text`: normal forms are read as their address.
* `Ipv4.of_mem_text`, `Ipv6.of_mem_text`: the characters of a normal form.
-/

namespace Signpost.Host

/-! ## Numerals -/

theorem digit?_digitChar {d : Nat} (hd : d < 16) : digit? d.digitChar = some d := by
  have all : ∀ d : Fin 16, digit? d.val.digitChar = some d.val := by decide
  exact all ⟨d, hd⟩

/-- Digits are read as the number that they were written for. -/
theorem numeral?_toDigits {radix : Nat} (hlow : 1 < radix) (hhigh : radix ≤ 16) (n : Nat) :
    numeral? radix (Nat.toDigits radix n) = some n := by
  have hpush (m : Nat) {d : Nat} (hd : d < radix) :
      pushDigit? radix m d.digitChar = some (radix * m + d) := by
    simp [pushDigit?, digit?_digitChar (Nat.lt_of_lt_of_le hd hhigh), hd]
  -- The last digit is the remainder, and the digits before it are those of the quotient.
  induction n using Nat.strongRecOn with
  | ind n ih =>
    by_cases hn : n < radix
    · rw [Nat.toDigits_of_lt_base hn, numeral?, List.foldlM_cons, hpush 0 hn]
      simp
    · have hmod : n % radix < radix := Nat.mod_lt n (by omega)
      have hdiv := ih (n / radix) (Nat.div_lt_self (by omega) hlow)
      unfold numeral? at hdiv ⊢
      rw [Nat.toDigits_of_base_le hlow (Nat.le_of_not_lt hn), List.foldlM_append, hdiv]
      simp [hpush _ hmod, Nat.div_add_mod]

/-- A digit in hexadecimal is a letter or a decimal digit. -/
theorem isAlphanum_of_mem_toDigits {n : Nat} {c : Char} (hc : c ∈ Nat.toDigits 16 n) :
    c.isAlphanum = true := by
  have all : ∀ d : Fin 16, d.val.digitChar.isAlphanum = true := by decide
  induction n using Nat.strongRecOn with
  | ind n ih =>
    by_cases hn : n < 16
    · rw [Nat.toDigits_of_lt_base hn, List.mem_singleton] at hc
      exact hc ▸ all ⟨n, hn⟩
    · rw [Nat.toDigits_of_base_le (by decide) (Nat.le_of_not_lt hn), List.mem_append,
        List.mem_singleton] at hc
      rcases hc with hc | rfl
      · exact ih (n / 16) (by omega) hc
      · exact all ⟨n % 16, Nat.mod_lt n (by decide)⟩

/-! ## Four octets -/

namespace Ipv4

/-- Decimal digits are never taken for octal ones, as no zero stands in front. -/
theorem number?_digits (n : Nat) : number? (Decimal.digits n) = some n := by
  by_cases hn : n = 0
  · rw [hn]
    rfl
  · have hzero := Decimal.head?_digits hn
    unfold number?
    split
    · rename_i hdigits
      exact absurd hdigits (Decimal.digits_ne_nil n)
    · rename_i hdigits
      exact absurd (congrArg List.head? hdigits) hzero
    · rename_i hdigits
      exact absurd (congrArg List.head? hdigits) hzero
    · exact numeral?_toDigits (by decide) (by decide) n

theorem octet_lt (a : Ipv4) (place : Nat) : a.octet place < 256 := Nat.mod_lt _ (by decide)

theorem ne_dot_of_mem_digits {n : Nat} {c : Char} (hc : c ∈ Decimal.digits n) : c ≠ '.' := by
  rintro rfl
  exact absurd (Decimal.isDigit_of_mem_digits hc) (by decide)

/-- Dots stand only between the octets of a normal form. -/
theorem pieces_text (a : Ipv4) : pieces (· = '.') a.text = a.octets.map Decimal.digits := by
  refine pieces_intersperse (by decide) (by simp [octets]) fun cs hcs c hc => ?_
  obtain ⟨n, -, rfl⟩ := List.mem_map.1 hcs
  exact decide_eq_false (ne_dot_of_mem_digits hc)

theorem text_ne_nil (a : Ipv4) : a.text ≠ [] := by
  intro hnil
  have hpieces := pieces_text a
  rw [hnil] at hpieces
  simp [pieces, octets] at hpieces

theorem parts_text (a : Ipv4) : parts a.text = a.octets.map Decimal.digits := by
  unfold parts
  rw [pieces_text, if_neg]
  simp [octets, Decimal.digits_ne_nil]

/-- The octets of an address make its bits. -/
theorem bits?_octets (a : Ipv4) : bits? 4 a.octets = some a.bits.toNat := by
  have hbits : a.bits.toNat < 2 ^ 32 := a.bits.toNat_lt
  have hlast : a.octet 0 >>> 8 = 0 := by
    rw [Nat.shiftRight_eq_div_pow, Nat.div_eq_of_lt (a.octet_lt 0)]
  have hsum : a.octet 3 <<< 24 + (a.octet 2 <<< 16 + (a.octet 1 <<< 8 + a.octet 0)) = a.bits.toNat := by
    simp only [octet, Nat.shiftRight_eq_div_pow, Nat.shiftLeft_eq]
    omega
  simp only [octets, bits?, octet_lt, if_true, Option.map_some, Nat.reduceMul, Nat.reduceAdd, hlast, hsum]

/-- The normal form of an address is read as the address. -/
theorem read?_text (a : Ipv4) : read? a.text = some a := by
  have hnumbers : (a.octets.map Decimal.digits).mapM number? = some a.octets := by
    simp [octets, number?_digits]
  unfold read?
  rw [parts_text, hnumbers]
  simp [bits?_octets]

example : (read? "0x7f.1.".toList).map text = some "127.0.0.1".toList := by decide

/-- The normal form of an address holds digits and dots. -/
theorem of_mem_text {a : Ipv4} {c : Char} (hc : c ∈ a.text) : c.isDigit = true ∨ c = '.' := by
  rcases mem_flatten_intersperse hc with rfl | ⟨cs, hcs, hc⟩
  · exact .inr rfl
  · obtain ⟨n, -, rfl⟩ := List.mem_map.1 hcs
    exact .inl (Decimal.isDigit_of_mem_digits hc)

end Ipv4

/-! ## Eight groups -/

namespace Ipv6

theorem group?_toDigits (g : UInt16) : group? (Nat.toDigits 16 g.toNat) = some g := by
  have hlength : (Nat.toDigits 16 g.toNat).length ≤ 4 :=
    Nat.toDigits_length 16 g.toNat 4 (by decide) g.toNat_lt
  have hne : (Nat.toDigits 16 g.toNat).isEmpty = false := by
    rw [List.isEmpty_eq_false_iff]
    exact Nat.toDigits_ne_nil
  unfold group?
  rw [hne, numeral?_toDigits (by decide) (by decide)]
  simp [Nat.not_lt.2 hlength]

theorem ne_colon_of_mem_toDigits {n : Nat} {c : Char} (hc : c ∈ Nat.toDigits 16 n) : c ≠ ':' := by
  rintro rfl
  exact absurd (isAlphanum_of_mem_toDigits hc) (by decide)

theorem readGroups?_map (atEnd : Bool) (gs : List UInt16) :
    readGroups? atEnd (gs.map fun g => Nat.toDigits 16 g.toNat) = some gs := by
  induction gs with
  | nil => rfl
  | cons g gs ih =>
    cases gs with
    | nil => simp [readGroups?, group?_toDigits]
    | cons next rest =>
      rw [List.map_cons] at ih
      rw [List.map_cons, List.map_cons, readGroups?, ih, group?_toDigits]
      rfl

theorem groupsText_cons_cons (g next : UInt16) (rest : List UInt16) :
    groupsText (g :: next :: rest) = Nat.toDigits 16 g.toNat ++ ':' :: groupsText (next :: rest) := by
  simp [groupsText, List.intercalate_cons_cons]

/-- Groups begin with a digit. -/
theorem exists_groupsText_eq_cons (g : UInt16) (gs : List UInt16) :
    ∃ c cs, groupsText (g :: gs) = c :: cs ∧ c ≠ ':' := by
  obtain ⟨c, cs, hdigits⟩ := List.exists_cons_of_ne_nil (Nat.toDigits_ne_nil (b := 16) (n := g.toNat))
  have hc : c ≠ ':' := ne_colon_of_mem_toDigits (n := g.toNat) (hdigits ▸ List.mem_cons_self)
  cases gs with
  | nil => exact ⟨c, cs, by simp [groupsText, hdigits], hc⟩
  | cons next rest =>
    exact ⟨c, cs ++ ':' :: groupsText (next :: rest), by rw [groupsText_cons_cons, hdigits]; rfl, hc⟩

/-- Written groups are read as these groups. -/
theorem groups?_groupsText (atEnd : Bool) (gs : List UInt16) :
    groups? atEnd (groupsText gs) = some gs := by
  cases gs with
  | nil => rfl
  | cons g gs =>
    have hpieces : pieces (· = ':') (groupsText (g :: gs)) =
        (g :: gs).map fun g => Nat.toDigits 16 g.toNat := by
      refine pieces_intersperse (by decide) (by simp) fun cs hcs c hc => ?_
      obtain ⟨g, -, rfl⟩ := List.mem_map.1 hcs
      exact decide_eq_false (ne_colon_of_mem_toDigits hc)
    have hne : (groupsText (g :: gs)).isEmpty = false := by
      obtain ⟨c, cs, hcons, -⟩ := exists_groupsText_eq_cons g gs
      rw [hcons, List.isEmpty_cons]
    rw [groups?, hne, if_neg Bool.false_ne_true, hpieces, readGroups?_map]

/-! ### Gaps -/

/-- Text without colons belongs to what stands before the gap. -/
theorem splitGap_append {cs : List Char} (h : ∀ c ∈ cs, c ≠ ':') (rest : List Char) :
    splitGap (cs ++ rest) = (cs ++ (splitGap rest).1, (splitGap rest).2) := by
  induction cs with
  | nil => rfl
  | cons c cs ih =>
    rw [List.cons_append, splitGap, ih fun x hx => h x (by simp [hx])]
    · rfl
    · rintro rest' rfl
      exact absurd rfl (h ':' (by simp))

/-- A colon before a digit is no gap. -/
theorem splitGap_colon {c : Char} (hc : c ≠ ':') (cs : List Char) :
    splitGap (':' :: c :: cs) = (':' :: (splitGap (c :: cs)).1, (splitGap (c :: cs)).2) := by
  rw [splitGap]
  rintro rest - hcons
  exact hc (List.cons.inj hcons).1

theorem splitGap_gap (rest : List Char) : splitGap (':' :: ':' :: rest) = ([], some rest) := by
  rw [splitGap]

/-- There is no gap in written groups. -/
theorem splitGap_groupsText_append (gs : List UInt16) {rest : List Char}
    (hrest : (splitGap rest).1 = []) :
    splitGap (groupsText gs ++ rest) = (groupsText gs, (splitGap rest).2) := by
  induction gs with
  | nil => exact Prod.ext hrest rfl
  | cons g gs ih =>
    cases gs with
    | nil =>
      rw [groupsText, List.map_singleton, List.intercalate_singleton,
        splitGap_append fun c hc => ne_colon_of_mem_toDigits hc, hrest, List.append_nil]
    | cons next gs =>
      obtain ⟨c, cs, hcons, hc⟩ := exists_groupsText_eq_cons next gs
      rw [groupsText_cons_cons, List.append_assoc, splitGap_append fun c hc => ne_colon_of_mem_toDigits hc]
      rw [hcons] at ih ⊢
      rw [List.cons_append, List.cons_append, splitGap_colon hc, ← List.cons_append, ih]

/-! ### Zeros -/

/-- The longest run of zeros, with what stands around it, is the whole. -/
theorem append_splitZeros (gs : List UInt16) :
    (splitZeros gs).1 ++ List.replicate (splitZeros gs).2.1 0 ++ (splitZeros gs).2.2 = gs := by
  induction gs with
  | nil => rfl
  | cons g gs ih =>
    have hzeros : List.replicate ((g :: gs).takeWhile (· = 0)).length 0 = (g :: gs).takeWhile (· = 0) := by
      refine (List.eq_replicate_iff.2 ⟨rfl, fun x hx => ?_⟩).symm
      simpa using List.mem_takeWhile_imp hx
    unfold splitZeros
    dsimp only
    split
    · dsimp only
      rw [List.nil_append, hzeros, List.takeWhile_append_dropWhile]
    · exact congrArg (g :: ·) ih

theorem ofGroups?_groups (a : Ipv6) : ofGroups? a.groups = some a := dif_pos a.length_groups

/-- The normal form of an address is read as the address. -/
theorem read?_text (a : Ipv6) : read? a.text = some a := by
  have happend := append_splitZeros a.groups
  unfold text
  generalize splitZeros a.groups = split at happend ⊢
  obtain ⟨before, length, after⟩ := split
  dsimp only at happend ⊢
  split
  · have hnone : splitGap (groupsText a.groups ++ []) = (groupsText a.groups, none) :=
      splitGap_groupsText_append a.groups rfl
    rw [List.append_nil] at hnone
    rw [read?, hnone]
    show (groups? true (groupsText a.groups)).bind ofGroups? = some a
    rw [groups?_groupsText, Option.bind_some, ofGroups?_groups]
  · have hsplit : splitGap (groupsText before ++ "::".toList ++ groupsText after) =
        (groupsText before, some (groupsText after)) := by
      rw [List.append_assoc]
      exact splitGap_groupsText_append before (congrArg Prod.fst (splitGap_gap (groupsText after)))
    have hlength := a.length_groups
    rw [← happend, List.length_append, List.length_append, List.length_replicate] at hlength
    have hmissing : 8 - (before.length + after.length) = length := by omega
    rw [read?, hsplit]
    simp only [groups?_groupsText, hmissing, Option.bind_eq_bind, Option.bind_some]
    rw [if_neg (by omega), happend, ofGroups?_groups]

example : (read? "2001:DB8::0:127.0.0.1".toList).map text = some "2001:db8::7f00:1".toList := by decide

theorem of_mem_groupsText {gs : List UInt16} {c : Char} (hc : c ∈ groupsText gs) :
    c.isAlphanum = true ∨ c = ':' := by
  rcases mem_flatten_intersperse hc with rfl | ⟨cs, hcs, hc⟩
  · exact .inr rfl
  · obtain ⟨g, -, rfl⟩ := List.mem_map.1 hcs
    exact .inl (isAlphanum_of_mem_toDigits hc)

/-- The normal form of an address holds digits, letters and colons. -/
theorem of_mem_text {a : Ipv6} {c : Char} (hc : c ∈ a.text) : c.isAlphanum = true ∨ c = ':' := by
  unfold text at hc
  dsimp only at hc
  split at hc
  · exact of_mem_groupsText hc
  · rw [List.mem_append, List.mem_append] at hc
    rcases hc with (hc | hc) | hc
    · exact of_mem_groupsText hc
    · exact .inr (by simpa using hc)
    · exact of_mem_groupsText hc

end Ipv6

end Signpost.Host
