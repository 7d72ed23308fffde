import Signpost.Http.MediaType
import Signpost.Proofs.Text.Ascii

/-!
# Media types read again

A media type keeps what it was read from up to the case of letters and a semicolon at the end, so its own
text is read as itself.

* `Place.next_kept`: a character that is kept is read again from the same place, and kept as it is.
* `parameters?_kept`: parameters that are kept are read as themselves, by induction on the text.
* `ofText?_text`: a media type that was read from any text is read from its own.
-/

namespace Signpost.Http

/-! ## Classes of characters -/

/-- The second character is a token character, a control character or a character that is no letter if
the first is. -/
structure SameClass (c d : Char) : Prop where
  isToken : isTokenChar d = isTokenChar c
  isMark : ∀ mark, mark.isAlpha = false → (d = mark ↔ c = mark)
  isControl : d.toNat < 0x20 ∨ d.toNat = 0x7F ↔ c.toNat < 0x20 ∨ c.toNat = 0x7F

theorem sameClass_self (c : Char) : SameClass c c := ⟨rfl, fun _ _ => Iff.rfl, Iff.rfl⟩

/-- Case does not change the class of a character. -/
theorem sameClass_toLower (c : Char) : SameClass c c.toLower := by
  have htoken : ∀ n : Fin 128, isTokenChar (Char.ofNat n).toLower = isTokenChar (Char.ofNat n) := by
    decide +kernel
  have hletter : ∀ n : Fin 128, (Char.ofNat n).toLower = Char.ofNat n ∨
      (Char.ofNat n).isAlpha = true ∧ (Char.ofNat n).toLower.isAlpha = true := by
    decide +kernel
  have hcontrol : ∀ n : Fin 128, (Char.ofNat n).toLower.toNat < 0x20 ∨ (Char.ofNat n).toLower.toNat = 0x7F ↔
      (Char.ofNat n).toNat < 0x20 ∨ (Char.ofNat n).toNat = 0x7F := by
    decide +kernel
  refine of_toLower (fun n => ⟨htoken n, fun mark hmark => ?_, hcontrol n⟩) sameClass_self c
  rcases hletter n with hsame | ⟨hupper, hlower⟩
  · rw [hsame]
  · constructor
    · rintro rfl
      rw [hlower] at hmark
      cases hmark
    · rintro rfl
      rw [hupper] at hmark
      cases hmark

namespace MediaType

theorem sameClass_folded (fold : Bool) (c : Char) : SameClass c (folded fold c) := by
  cases fold with
  | false => exact sameClass_self c
  | true => exact sameClass_toLower c

theorem folded_folded (fold : Bool) (c : Char) : folded fold (folded fold c) = folded fold c := by
  cases fold with
  | false => rfl
  | true => exact toLower_toLower c

/-! ## Parameters -/

/-- What is kept of a character is read again from the same place, and kept as it is. -/
theorem Place.next_kept {place next : Place} {c kept : Char} (h : place.next c = some (next, kept)) :
    place.next kept = some (next, kept) := by
  have hlower := sameClass_toLower c
  cases place with
  | gap =>
    simp only [Place.next] at h ⊢
    split_ifs at h with hspace htoken
    · cases h
      rw [if_pos hspace]
    · cases h
      simp only [hlower.isMark ' ' (by decide), hlower.isToken, toLower_toLower]
      rw [if_neg hspace, if_pos htoken]
  | name read =>
    simp only [Place.next] at h ⊢
    split_ifs at h with hequals htoken
    · cases h
      rw [if_pos hequals]
    · cases h
      simp only [hlower.isMark '=' (by decide), hlower.isToken, toLower_toLower]
      rw [if_neg hequals, if_pos htoken]
  | value fold first =>
    have hfold := sameClass_folded fold c
    simp only [Place.next] at h ⊢
    split_ifs at h with hquote hsemicolon htoken
    · cases h
      rw [if_pos hquote]
    · cases h
      rw [if_neg hquote, if_pos hsemicolon]
    · cases h
      simp only [hfold.isMark '"' (by decide), hfold.isMark ';' (by decide), hfold.isToken, folded_folded]
      rw [if_neg hquote, if_neg hsemicolon, if_pos htoken]
  | quoted fold first =>
    have hfold := sameClass_folded fold c
    simp only [Place.next] at h ⊢
    split_ifs at h with hquote hcontrol
    · cases h
      rw [if_pos hquote]
    · cases h
      simp only [hfold.isMark '"' (by decide), hfold.isControl, folded_folded]
      rw [if_neg hquote, if_neg hcontrol]
  | closed =>
    simp only [Place.next] at h ⊢
    split_ifs at h with hsemicolon hspace
    · cases h
      rw [if_pos hsemicolon]
    · cases h
      rw [if_neg hsemicolon, if_pos hspace]

/-- A space is kept of a space only. -/
theorem Place.kept_eq_space_iff {place next : Place} {c kept : Char}
    (h : place.next c = some (next, kept)) : kept = ' ' ↔ c = ' ' := by
  have hfolded : ∃ fold, kept = folded fold c := by
    cases place <;> simp only [Place.next] at h <;> split_ifs at h <;> cases h
    all_goals first
      | exact ⟨false, rfl⟩
      | exact ⟨true, rfl⟩
      | exact ⟨_, rfl⟩
  obtain ⟨fold, rfl⟩ := hfolded
  exact (sameClass_folded fold c).isMark ' ' (by decide)

theorem parameters?_cons_eq_some_iff {place : Place} {c : Char} {cs out : List Char} :
    parameters? place (c :: cs) = some out ↔ ∃ next kept rest, place.next c = some (next, kept) ∧
      parameters? next cs = some rest ∧ out = kept :: rest := by
  rw [parameters?]
  rcases place.next c with _ | ⟨next, kept⟩
  · simp
  · simp only [Option.map_eq_some_iff, Option.some.injEq, Prod.mk.injEq]
    constructor
    · intro ⟨rest, hrest, hout⟩
      exact ⟨next, kept, rest, ⟨rfl, rfl⟩, hrest, hout.symm⟩
    · rintro ⟨_, _, rest, ⟨rfl, rfl⟩, hrest, hout⟩
      exact ⟨rest, hrest, hout.symm⟩

/-- The parameters that are kept are read as themselves, and are spaces only if all that was read is. -/
theorem parameters?_kept {place : Place} {cs out : List Char} (h : parameters? place cs = some out) :
    parameters? place out = some out ∧ out.all (· = ' ') = cs.all (· = ' ') := by
  induction cs generalizing place out with
  | nil =>
    rw [parameters?] at h
    split_ifs at h with hend
    cases h
    rw [parameters?, if_pos hend]
    exact ⟨rfl, rfl⟩
  | cons c cs ih =>
    obtain ⟨next, kept, rest, hnext, hrest, rfl⟩ := parameters?_cons_eq_some_iff.1 h
    have ⟨hagain, hblank⟩ := ih hrest
    refine ⟨parameters?_cons_eq_some_iff.2 ⟨next, kept, rest, Place.next_kept hnext, hagain, rfl⟩, ?_⟩
    rw [List.all_cons, List.all_cons, hblank, decide_eq_decide.2 (Place.kept_eq_space_iff hnext)]

/-- The parameters that are kept are none, or are read as themselves behind their semicolon. -/
theorem parametersAfter?_kept {cs out : List Char} (h : parametersAfter? cs = some out) :
    out = [] ∨ ∃ rest, out = ';' :: rest ∧ parametersAfter? rest = some (';' :: rest) := by
  unfold parametersAfter? at h
  split_ifs at h with hblank
  · cases h
    exact .inl rfl
  · obtain ⟨rest, hrest, rfl⟩ := Option.map_eq_some_iff.1 h
    have ⟨hagain, hall⟩ := parameters?_kept hrest
    refine .inr ⟨rest, rfl, ?_⟩
    rw [parametersAfter?, hall, if_neg hblank, hagain]
    rfl

/-! ## Texts -/

/-- A token is read up to a character that is none. -/
theorem takeWhile_token_append {token rest : List Char} (htoken : token.all isTokenChar = true)
    (hrest : ∀ c ∈ rest.head?, isTokenChar c = false) :
    (token ++ rest).takeWhile isTokenChar = token := by
  rw [List.takeWhile_append_of_pos (List.all_eq_true.1 htoken)]
  cases rest with
  | nil => simp
  | cons c rest => simp [hrest c rfl]

/-- A text of a type and a subtype is an essence. -/
theorem ofText?_essence {type subtype : List Char} (hne : type ≠ []) (htype : type.all isTokenChar = true)
    (hsub : subtype.all isTokenChar = true) :
    ofText? (String.ofList (type ++ '/' :: subtype)) =
      some { essence := String.ofList ((type ++ '/' :: subtype).map Char.toLower) } := by
  have hfirst : (type ++ '/' :: subtype).takeWhile isTokenChar = type :=
    takeWhile_token_append htype (by simp; decide)
  have hsecond : subtype.takeWhile isTokenChar = subtype := by
    have h : (subtype ++ []).takeWhile isTokenChar = subtype := takeWhile_token_append hsub (by simp)
    rwa [List.append_nil] at h
  obtain ⟨t, ts, rfl⟩ := List.exists_cons_of_ne_nil hne
  unfold ofText?
  simp only [String.toList_ofList, hfirst, List.drop_left, hsecond, List.drop_length]

/-- Behind a semicolon stand the parameters. -/
theorem ofText?_parameters {type subtype : List Char} (hne : type ≠ [])
    (htype : type.all isTokenChar = true) (hsubne : subtype ≠ []) (hsub : subtype.all isTokenChar = true)
    (rest : List Char) :
    ofText? (String.ofList (type ++ '/' :: (subtype ++ ';' :: rest))) =
      (parametersAfter? rest).map fun kept =>
        { essence := String.ofList ((type ++ '/' :: subtype).map Char.toLower)
          parameters := String.ofList kept } := by
  have hfirst : (type ++ '/' :: (subtype ++ ';' :: rest)).takeWhile isTokenChar = type :=
    takeWhile_token_append htype (by simp; decide)
  have hsecond : (subtype ++ ';' :: rest).takeWhile isTokenChar = subtype :=
    takeWhile_token_append hsub (by simp; decide)
  obtain ⟨t, ts, rfl⟩ := List.exists_cons_of_ne_nil hne
  obtain ⟨u, us, rfl⟩ := List.exists_cons_of_ne_nil hsubne
  unfold ofText?
  simp only [String.toList_ofList, hfirst, List.drop_left, hsecond]

/-- A media type that was read has an essence of two tokens, and parameters that are read as themselves. -/
theorem exists_of_ofText? {text : String} {m : MediaType} (h : ofText? text = some m) :
    ∃ type subtype, type ≠ [] ∧ type.all isTokenChar = true ∧ subtype.all isTokenChar = true ∧
      m.essence = String.ofList ((type ++ '/' :: subtype).map Char.toLower) ∧
      (m.parameters = "" ∨ subtype ≠ [] ∧ ∃ rest, m.parameters = String.ofList (';' :: rest) ∧
        parametersAfter? rest = some (';' :: rest)) := by
  unfold ofText? at h
  dsimp only at h
  split at h
  · cases h
  · rename_i rest _ hne
    refine ⟨text.toList.takeWhile isTokenChar, rest.takeWhile isTokenChar, hne, List.all_takeWhile,
      List.all_takeWhile, ?_⟩
    split at h
    · cases h
      exact ⟨rfl, .inl rfl⟩
    · cases h
    · rename_i parameters _ hsub
      obtain ⟨kept, hkept, rfl⟩ := Option.map_eq_some_iff.1 h
      rcases parametersAfter?_kept hkept with rfl | ⟨rest, rfl, hrest⟩
      · exact ⟨rfl, .inl rfl⟩
      · exact ⟨rfl, .inr ⟨hsub, rest, rfl, hrest⟩⟩
    · cases h
  · cases h

/-- A media type that was read is read from its own text. -/
theorem ofText?_text {text : String} {m : MediaType} (h : ofText? text = some m) :
    ofText? m.text = some m := by
  obtain ⟨type, subtype, hne, htype, hsub, hessence, hparameters⟩ := exists_of_ofText? h
  have hlower {cs : List Char} (hcs : cs.all isTokenChar = true) :
      (cs.map Char.toLower).all isTokenChar = true := by
    rw [List.all_map, ← hcs]
    exact congrArg cs.all (funext fun c => (sameClass_toLower c).isToken)
  have hslash (cs ds : List Char) : (cs ++ '/' :: ds).map Char.toLower =
      cs.map Char.toLower ++ '/' :: ds.map Char.toLower := by
    rw [List.map_append, List.map_cons]
    rfl
  have hagain : (type.map Char.toLower ++ '/' :: subtype.map Char.toLower).map Char.toLower =
      (type ++ '/' :: subtype).map Char.toLower := by
    rw [← hslash, List.map_map]
    exact congrArg (List.map · _) (funext toLower_toLower)
  have htypene : type.map Char.toLower ≠ [] := by simpa using hne
  obtain ⟨essence, parameters⟩ := m
  dsimp only at hessence hparameters
  subst hessence
  rcases hparameters with rfl | ⟨hsubne, rest, rfl, hrest⟩
  · have hread := ofText?_essence htypene (hlower htype) (hlower hsub)
    rw [hagain, ← hslash] at hread
    rw [MediaType.text, String.append_empty, hread]
  · have hread := ofText?_parameters htypene (hlower htype) (by simpa using hsubne) (hlower hsub) rest
    rw [hagain, hrest, ← List.cons_append, ← List.append_assoc, ← hslash] at hread
    rw [MediaType.text, ← String.ofList_append, hread]
    rfl

end MediaType

end Signpost.Http
