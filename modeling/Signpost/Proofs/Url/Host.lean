import Signpost.Proofs.Host.Address
import Signpost.Proofs.Text.Ascii
import Signpost.Url.Host

/-!
# Normal forms of hosts

What is read from a host is read as itself again. For addresses this is shown, for names it follows from laws
of their ASCII forms.

* `NameReading.Lawful`: what the reading of names in any script obeys.
* `lawful_asciiName?`: the reading of names in ASCII obeys it.
* `IsNormalHost`, `isNormalHost_of_host?`: normal forms of hosts, and that reading gives no others.
-/

namespace Signpost.Url

variable {names : NameReading}

/-! ## Names -/

/-- What the reading of names obeys. -/
structure NameReading.Lawful (names : NameReading) : Prop where
  /-- An ASCII form is its own ASCII form. -/
  stable : ∀ {cs name}, names cs = some name → names name = some name
  /-- An ASCII form holds none of the characters that are forbidden in names. -/
  allowed : ∀ {cs name}, names cs = some name → ∀ c ∈ name, isForbiddenInName c = false
  /-- A name of digits and dots is its own ASCII form. -/
  digits : ∀ {cs}, (∀ c ∈ cs, c.isDigit = true ∨ c = '.') → names cs = some cs

theorem of_asciiName? {cs name : List Char} (h : asciiName? cs = some name) :
    name = cs.map Char.toLower ∧ name.any isForbiddenInName = false ∧
      name.any (0x80 ≤ ·.toNat) = false ∧ Host.isSoundName name = true := by
  unfold asciiName? at h
  dsimp only at h
  split at h
  · cases h
  · rename_i hall
    cases h
    simpa [and_assoc] using hall

theorem ofChar_of_isDigit {c : Char} (h : c.isDigit = true) :
    Host.Direction.ofChar c = .europeanNumber := by
  have all : ∀ n : Fin 128, (Char.ofNat n).isDigit = true →
      Host.Direction.ofChar (Char.ofNat n) = .europeanNumber := by decide +kernel
  exact of_toNat_lt_128 (P := fun c => c.isDigit = true → Host.Direction.ofChar c = .europeanNumber) all
    (toNat_lt_of_isAlphanum (by rw [Char.isAlphanum, h, Bool.or_true])) h

/-- Numbers stand for themselves. -/
theorem mapM_characters?_of_isDigit {labels : List (List Char)}
    (h : ∀ label ∈ labels, ∀ c ∈ label, c.isDigit = true) :
    labels.mapM Host.characters? = some labels := by
  induction labels with
  | nil => rfl
  | cons label labels ih =>
    have hlabel : Host.characters? label = some label := by
      unfold Host.characters?
      split
      · exact absurd (h _ List.mem_cons_self 'x' List.mem_cons_self) (by decide)
      · rfl
    rw [List.mapM_cons, hlabel, ih fun l hl => h l (List.mem_cons_of_mem _ hl)]
    rfl

/-- Among numbers no label is written from right to left, so none has to keep to a direction. -/
theorem directionsFit_of_isDigit {labels : List (List Char)}
    (h : ∀ label ∈ labels, ∀ c ∈ label, c.isDigit = true) : Host.directionsFit labels = true := by
  have hnumbers : ∀ d ∈ labels.map (·.map Host.Direction.ofChar), ∀ x ∈ d, x = .europeanNumber := by
    intro d hd x hx
    obtain ⟨label, hlabel, rfl⟩ := List.mem_map.1 hd
    obtain ⟨c, hc, rfl⟩ := List.mem_map.1 hx
    exact ofChar_of_isDigit (h label hlabel c hc)
  have hmixed : ((labels.map (·.map Host.Direction.ofChar)).any fun d =>
      d.contains .right || d.contains .arabicNumber) = false := by
    refine List.any_eq_false.2 fun d hd => ?_
    have hno {x : Host.Direction} (hx : x ≠ .europeanNumber) : x ∉ d := fun hmem => hx (hnumbers d hd x hmem)
    simp [hno (x := .right) (by decide), hno (x := .arabicNumber) (by decide)]
  simp only [Host.directionsFit, hmixed, Bool.not_false, Bool.true_or]

theorem isSoundName_of_isDigit {cs : List Char} (h : ∀ c ∈ cs, c.isDigit = true ∨ c = '.') :
    Host.isSoundName cs = true := by
  have hdigits : ∀ label ∈ (pieces (· = '.') cs).filter (!·.isEmpty), ∀ c ∈ label, c.isDigit = true := by
    intro label hlabel c hc
    obtain ⟨hmem, hdot⟩ := of_mem_pieces label (List.mem_filter.1 hlabel).1 c hc
    exact (h c hmem).resolve_right (of_decide_eq_false hdot)
  unfold Host.isSoundName
  rw [mapM_characters?_of_isDigit hdigits]
  exact directionsFit_of_isDigit hdigits

/-- Digits and dots have no case and may stand in names. -/
theorem of_isDigit_or_dot {c : Char} (h : c.isDigit = true ∨ c = '.') :
    c.toLower = c ∧ isForbiddenInName c = false ∧ c.toNat < 0x80 := by
  have all : ∀ n : Fin 128, (Char.ofNat n).isDigit = true ∨ Char.ofNat n = '.' →
      (Char.ofNat n).toLower = Char.ofNat n ∧ isForbiddenInName (Char.ofNat n) = false := by decide
  have hlt : c.toNat < 128 := by
    rcases h with h | rfl
    · exact toNat_lt_of_isAlphanum (by rw [Char.isAlphanum, h, Bool.or_true])
    · decide
  obtain ⟨hlower, hallowed⟩ := of_toNat_lt_128 (P := fun c => c.isDigit = true ∨ c = '.' →
    c.toLower = c ∧ isForbiddenInName c = false) all hlt h
  exact ⟨hlower, hallowed, hlt⟩

/-- Names in ASCII are read by the laws of all names. -/
theorem lawful_asciiName? : asciiName?.Lawful where
  stable := by
    intro cs name h
    obtain ⟨rfl, hallowed, hascii, hsound⟩ := of_asciiName? h
    have hlower : (cs.map Char.toLower).map Char.toLower = cs.map Char.toLower := by
      rw [List.map_map]
      exact List.map_congr_left fun c _ => toLower_toLower c
    simp only [asciiName?, hlower, hallowed, hascii, hsound, Bool.not_true, Bool.or_self,
      Bool.false_eq_true, if_false]
  allowed := by
    intro cs name h
    simpa using (of_asciiName? h).2.1
  digits := by
    intro cs h
    have hlower : cs.map Char.toLower = cs :=
      (List.map_congr_left fun c hc => (of_isDigit_or_dot (h c hc)).1).trans (List.map_id cs)
    have hallowed : cs.any isForbiddenInName = false :=
      List.any_eq_false.2 fun c hc => by simp [(of_isDigit_or_dot (h c hc)).2.1]
    have hascii : (cs.any fun c => decide (0x80 ≤ c.toNat)) = false :=
      List.any_eq_false.2 fun c hc => by simpa using (of_isDigit_or_dot (h c hc)).2.2
    simp only [asciiName?, hlower, hallowed, hascii, isSoundName_of_isDigit h, Bool.not_true, Bool.or_self,
      Bool.false_eq_true, if_false]

/-! ## Hosts -/

/-- A host that reading gives back. -/
structure IsNormalHost (names : NameReading) (h : List Char) : Prop where
  host : host? names h = some (String.ofList h)
  chars : (∃ a, h = bracketedText a) ∨ h ≠ [] ∧ ∀ c ∈ h, isForbiddenInName c = false

theorem IsNormalHost.ne_nil {h : List Char} (hh : IsNormalHost names h) : h ≠ [] := by
  rcases hh.chars with ⟨a, rfl⟩ | ⟨hne, -⟩
  · exact List.cons_ne_nil _ _
  · exact hne

theorem host?_bracketedText (a : Host.Ipv6) :
    host? names (bracketedText a) = some (String.ofList (bracketedText a)) := by
  simp [host?, bracketedText, bracketed?, Host.Ipv6.read?_text]

theorem isNumeric_of_isDigit {label : List Char} (hne : label ≠ []) (h : ∀ c ∈ label, c.isDigit = true) :
    isNumeric label = true := by
  unfold isNumeric
  split
  · exact absurd (h 'x' (by simp)) (by decide)
  · simpa [hne] using h

/-- Four octets are their own normal form. -/
theorem nameOrOctets?_text (a : Host.Ipv4) : nameOrOctets? a.text = some a.text := by
  have hlast : lastLabel a.text = Decimal.digits (a.octet 0) := by
    obtain ⟨c, cs, hdigits⟩ := List.exists_cons_of_ne_nil (Decimal.digits_ne_nil (a.octet 0))
    simp [lastLabel, Host.Ipv4.pieces_text, Host.Ipv4.octets, hdigits]
  have hnumeric : isNumeric (lastLabel a.text) = true := by
    rw [hlast]
    exact isNumeric_of_isDigit (Decimal.digits_ne_nil _) fun c hc => Decimal.isDigit_of_mem_digits hc
  rw [nameOrOctets?, if_neg (by simpa using a.text_ne_nil), if_pos hnumeric, Host.Ipv4.read?_text,
    Option.map_some]

/-- An ASCII form that is a normal form is read as itself. -/
theorem host?_of_nameOrOctets? {h : List Char} (hnames : names h = some h)
    (hallowed : ∀ c ∈ h, isForbiddenInName c = false) (hform : nameOrOctets? h = some h) :
    host? names h = some (String.ofList h) := by
  have hhead : h.head? ≠ some '[' := by
    intro hhead
    exact absurd (hallowed '[' (List.mem_of_head? hhead)) (by decide)
  have hpercent : ∀ c ∈ h, c ≠ '%' := by
    rintro c hc rfl
    exact absurd (hallowed '%' hc) (by decide)
  rw [host?, if_neg hhead, Percent.decodeText?_of_forall_ne hpercent]
  simp only [Option.bind_eq_bind, Option.bind_some, hnames, hform]

/-- What a name is read as is the name or four octets. -/
theorem of_nameOrOctets? {name h : List Char} (hh : nameOrOctets? name = some h) :
    name ≠ [] ∧ (h = name ∨ ∃ a : Host.Ipv4, h = a.text) := by
  unfold nameOrOctets? at hh
  split at hh
  · cases hh
  · rename_i hne
    refine ⟨by simpa using hne, ?_⟩
    split at hh
    · obtain ⟨a, -, rfl⟩ := Option.map_eq_some_iff.1 hh
      exact .inr ⟨a, rfl⟩
    · cases hh
      exact .inl rfl

/-- The normal form of a host is its own normal form. -/
theorem isNormalHost_of_host? (hnames : names.Lawful) {cs : List Char} {h : String}
    (hh : host? names cs = some h) : IsNormalHost names h.toList := by
  unfold host? at hh
  split at hh
  · obtain ⟨a, -, rfl⟩ := Option.map_eq_some_iff.1 hh
    rw [String.toList_ofList]
    exact ⟨host?_bracketedText a, .inl ⟨a, rfl⟩⟩
  · simp only [Option.bind_eq_bind, Option.bind_eq_some_iff, Option.some.injEq] at hh
    obtain ⟨decoded, -, name, hname, host, hhost, rfl⟩ := hh
    rw [String.toList_ofList]
    obtain ⟨hne, rfl | ⟨a, rfl⟩⟩ := of_nameOrOctets? hhost
    · have hallowed := hnames.allowed hname
      exact ⟨host?_of_nameOrOctets? (hnames.stable hname) hallowed hhost, .inr ⟨hne, hallowed⟩⟩
    · have hdigits : ∀ c ∈ a.text, c.isDigit = true ∨ c = '.' := fun c hc => Host.Ipv4.of_mem_text hc
      have hallowed : ∀ c ∈ a.text, isForbiddenInName c = false := fun c hc =>
        (of_isDigit_or_dot (hdigits c hc)).2.1
      exact ⟨host?_of_nameOrOctets? (hnames.digits hdigits) hallowed (nameOrOctets?_text a),
        .inr ⟨a.text_ne_nil, hallowed⟩⟩

end Signpost.Url
