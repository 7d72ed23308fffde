import Signpost.Proofs.Matcher.Reading
import Signpost.Proofs.Matcher.Spelling

/-!
# Spellings read back

A matcher reads a spelled value back from every cursor that carries its fragment, takes away the
features of the chain and leaves the rest.

* `IsComposable`: the end of the path is asked for only where nothing follows, and no literal is empty.
* `Prevails`: where the alternative that writes a value reads the cursor, none before it does.
* `Spells.parse`: the reading, by induction on the spelling. Sequences split the carried fragment along
  their sound chain.
-/

namespace Signpost.Matcher

variable {α : Type}

/-! ## Conditions -/

/-- `whole` stands only where nothing may follow, and no literal is empty. -/
def IsComposable : {α : Type} → Matcher α → (last : Bool) → Prop
  | _, literal text, _ => text ≠ ""
  | _, skip first next, last => first.IsComposable false ∧ next.IsComposable last
  | _, take first next, last => first.IsComposable false ∧ next.IsComposable last
  | _, whole inner, last => last = true ∧ inner.IsComposable true
  | _, map inner _, last => inner.IsComposable last
  | _, choice _ alternative, last => ∀ i, (alternative i).IsComposable last
  | _, _, _ => True

/-- Wherever the alternative that writes the value reads what is left of the cursor, no alternative
before it does. -/
def Prevails : {α : Type} → Matcher α → α → Cursor → Prop
  | _, skip first next, a, d => first.Prevails a d ∧ next.Prevails () (first.parse d).2
  | _, take first next, (a, b), d => first.Prevails a d ∧ next.Prevails b (first.parse d).2
  | _, whole inner, a, d => inner.Prevails a d
  | _, map inner c, b, d => ∀ a, c.unapply b = some a → inner.Prevails a d
  | _, choice _ alternative, a, d => ∀ i, Claims alternative a i →
      ((alternative i).Reads d → ∀ j < i, ¬(alternative j).Reads d) ∧ (alternative i).Prevails a d
  | _, _, _, _ => True

/-- No alternative before the one that writes the value reads what is left of the cursor. -/
def Unshadowed : {α : Type} → Matcher α → α → Cursor → Prop
  | _, skip first next, a, d => first.Unshadowed a d ∧ next.Unshadowed () (first.parse d).2
  | _, take first next, (a, b), d => first.Unshadowed a d ∧ next.Unshadowed b (first.parse d).2
  | _, whole inner, a, d => inner.Unshadowed a d
  | _, map inner c, b, d => ∀ a, c.unapply b = some a → inner.Unshadowed a d
  | _, choice _ alternative, a, d => ∀ i, Claims alternative a i →
      (∀ j < i, ¬(alternative j).Reads d) ∧ (alternative i).Unshadowed a d
  | _, _, _, _ => True

theorem Unshadowed.prevails {m : Matcher α} {a : α} {d : Cursor} (h : m.Unshadowed a d) :
    m.Prevails a d := by
  induction m generalizing d with
  | skip first next ihf ihn => exact ⟨ihf h.1, ihn h.2⟩
  | take first next ihf ihn => exact ⟨ihf h.1, ihn h.2⟩
  | whole inner ih => exact ih h
  | map inner c ih => exact fun b hb => ih (h b hb)
  | choice count alternative ih => exact fun i hi => ⟨fun _ => (h i hi).1, ih i (h i hi).2⟩
  | _ => trivial

/-! ## One feature -/

/-- The values of a carried field. -/
theorem find?_of_carries {d : Cursor} {key : String} {values rest : List String}
    (h : d.Carries (fields key values) [.field key] rest) :
    d.query.find? key = if values = [] then none else some values := by
  rw [h.find? key (List.mem_singleton_self _), find?_fields]

theorem path_of_carries_fields {d : Cursor} {key : String} {values rest : List String}
    (h : d.Carries (fields key values) [.field key] rest) : d.path = rest :=
  h.path

theorem parseOptional_none {key : String} {c : Conversion String α} {d : Cursor} {rest : List String}
    (h : d.Carries (fields key []) [.field key] rest) :
    parseOptional key c d = (none, d) := by
  rw [parseOptional, first?_of_find?_eq_none (find?_of_carries h)]
  rfl

theorem parseOptional_some {key value : String} {c : Conversion String α} {a : α} {d : Cursor}
    {rest : List String} (ha : c.apply value = some a)
    (h : d.Carries (fields key [value]) [.field key] rest) :
    parseOptional key c d = (some a, { d with query := d.query.erase key }) := by
  rw [parseOptional, first?_of_find? (find?_of_carries h), Option.bind_some, ha]

theorem convertAll_of_forall₂ (key : String) {c : Conversion String α} {as : List α}
    {values : List String} (h : List.Forall₂ (fun a value => c.apply value = some a) as values) :
    convertAll key c values = .ok as := by
  unfold convertAll
  induction h with
  | nil => rfl
  | cons ha _ ih =>
    rw [List.mapM_cons, ih, ha]
    rfl

/-- A body that the codec decodes is read, unless another media type is declared. -/
theorem parseBody_of_decode {mediaType : Http.MediaType} {missing : Except MatchError Bytes}
    {codec : BodyCodec α} {a : α} {bytes : Bytes} (ha : codec.decode? bytes = some a) {d : Cursor}
    (hbody : d.body = some bytes) (htype : ∀ t ∈ d.contentType, t.essence = mediaType.essence) :
    parseBody mediaType missing codec d = (.ok a, { d with body := none }) := by
  have hcheck : checkContentType mediaType d = .ok () := by
    unfold checkContentType
    split
    · rename_i found hfound
      exact if_pos (htype found hfound)
    · rfl
  rw [parseBody, hcheck, hbody]
  simp only [Option.elim_some, ha]

/-! ## All spellings -/

/-- A spelled value is read back from every cursor that carries its fragment. -/
theorem Spells.parse {m : Matcher α} {a : α} {f : Cursor} {chain : List Feature}
    (h : m.Spells a f chain) {last : Bool} (hm : m.IsComposable last) (hs : IsSound chain) {d : Cursor}
    {rest : List String} (hlast : last = true → rest = []) (hd : d.Carries f chain rest)
    (hp : m.Prevails a d) : ∃ e, m.parse d = (.ok a, e) ∧ d.Spent e chain rest := by
  have hprefix {path : List String} (h : false = true) : path = [] := absurd h Bool.false_ne_true
  induction h generalizing last d rest with
  | start =>
    have hpath : d.path = rest := hd.path
    subst hpath
    exact ⟨d, rfl, Cursor.spent_path hd.wellFormed d.path⟩
  | literal text =>
    have hpath : d.path = text :: rest := hd.path
    refine ⟨{ d with path := rest }, ?_, Cursor.spent_path hd.wellFormed rest⟩
    rw [Matcher.parse, hpath]
    exact if_pos rfl
  | method m =>
    have hpath : d.path = rest := hd.path
    have hmethod := hd.method m (List.mem_singleton_self _)
    refine ⟨d, ?_, Cursor.spent_self hd.wellFormed hpath (by simp)⟩
    rw [Matcher.parse, if_pos hmethod]
  | @segment _ c a text hc ha ht =>
    have hpath : d.path = text :: rest := hd.path
    refine ⟨{ d with path := rest }, ?_, Cursor.spent_path hd.wellFormed rest⟩
    rw [Matcher.parse, parseSegment, hpath]
    simp only [ha]
  | query hc ha =>
    have hpath := path_of_carries_fields hd
    refine ⟨_, ?_, Cursor.spent_erase hd.wellFormed hpath _⟩
    rw [Matcher.parse, first?_of_find? (find?_of_carries hd)]
    simp only [ha]
  | optionalQuery_none =>
    have hpath := path_of_carries_fields hd
    refine ⟨d, ?_, Cursor.spent_self hd.wellFormed hpath (by simp)⟩
    rw [Matcher.parse, parseOptional_none hd]
  | optionalQuery_some hc ha =>
    have hpath := path_of_carries_fields hd
    refine ⟨_, ?_, Cursor.spent_erase hd.wellFormed hpath _⟩
    rw [Matcher.parse, parseOptional_some ha hd]
  | queryOr_default =>
    have hpath := path_of_carries_fields hd
    refine ⟨d, ?_, Cursor.spent_self hd.wellFormed hpath (by simp)⟩
    rw [Matcher.parse, parseOptional_none hd]
    rfl
  | queryOr_other hne hc ha =>
    have hpath := path_of_carries_fields hd
    refine ⟨_, ?_, Cursor.spent_erase hd.wellFormed hpath _⟩
    rw [Matcher.parse, parseOptional_some ha hd]
    rfl
  | @queryAll _ key c as values hc =>
    have hpath := path_of_carries_fields hd
    have hfind := find?_of_carries hd
    have hall := convertAll_of_forall₂ key (hc.imp fun _ _ h => h.2)
    rcases eq_or_ne values [] with rfl | hne
    · cases hc
      refine ⟨d, ?_, Cursor.spent_self hd.wellFormed hpath (by simp)⟩
      rw [Matcher.parse, hfind]
      rfl
    · refine ⟨_, ?_, Cursor.spent_erase hd.wellFormed hpath key⟩
      rw [Matcher.parse, hfind, if_neg hne]
      simp only [hall]
  | form hc ha =>
    have hpath : d.path = rest := hd.path
    obtain ⟨hbody, htype⟩ := hd.body (List.mem_singleton_self _)
    have hessence := fun t ht => congrArg (·.essence) (Option.mem_unique (a := t) ht htype)
    exact ⟨_, parseBody_of_decode ha hbody hessence, Cursor.spent_body hd.wellFormed hpath⟩
  | json hc ha =>
    have hpath : d.path = rest := hd.path
    obtain ⟨hbody, htype⟩ := hd.body (List.mem_singleton_self _)
    have hessence := fun t ht => congrArg (·.essence) (Option.mem_unique (a := t) ht htype)
    exact ⟨_, parseBody_of_decode ha hbody hessence, Cursor.spent_body hd.wellFormed hpath⟩
  | rawBody bytes =>
    have hpath : d.path = rest := hd.path
    obtain ⟨hbody, -⟩ := hd.body (List.mem_singleton_self _)
    refine ⟨_, ?_, Cursor.spent_body hd.wellFormed hpath⟩
    rw [Matcher.parse, hbody]
  | skip hf hn ihf ihn =>
    obtain ⟨e, he, hspent⟩ := ihf hm.1 hs.left hprefix (hd.first hs hn.fits) hp.1
    have hp' := hp.2
    rw [he] at hp'
    obtain ⟨e', he', hspent'⟩ := ihn hm.2 hs.right hlast (hd.next hs hf.fits hn.fits hspent) hp'
    refine ⟨e', ?_, hspent.trans hspent'⟩
    rw [Matcher.parse, he]
    simp only [he']
  | take hf hn ihf ihn =>
    obtain ⟨e, he, hspent⟩ := ihf hm.1 hs.left hprefix (hd.first hs hn.fits) hp.1
    have hp' := hp.2
    rw [he] at hp'
    obtain ⟨e', he', hspent'⟩ := ihn hm.2 hs.right hlast (hd.next hs hf.fits hn.fits hspent) hp'
    refine ⟨e', ?_, hspent.trans hspent'⟩
    rw [Matcher.parse, he]
    simp only [he']
  | whole h ih =>
    obtain ⟨rfl, hi⟩ := hm
    obtain ⟨e, he, hspent⟩ := ih hi hs hlast hd hp
    refine ⟨e, ?_, hspent⟩
    rw [Matcher.parse, he]
    exact if_pos (hspent.path.trans (hlast rfl))
  | map hc hb h ih =>
    obtain ⟨e, he, hspent⟩ := ih hm hs hlast hd (hp _ hc)
    refine ⟨e, ?_, hspent⟩
    rw [Matcher.parse, he]
    simp only [hb]
  | @choice _ count alternative a f chain i hbefore h ih =>
    have hi : Claims alternative a i := by
      refine ⟨hbefore, ?_⟩
      rw [h.print]
      intro hunclaimed
      cases hunclaimed
    obtain ⟨hfirst, hp'⟩ := hp i hi
    obtain ⟨e, he, hspent⟩ := ih (hm i) hs hlast hd hp'
    exact ⟨e, parse_choice_of_before (hfirst ⟨a, by rw [he]⟩) he, hspent⟩

/-- No segment of a spelling is lost when it is read again. -/
theorem Spells.ne_empty_of_mem_path {m : Matcher α} {a : α} {f : Cursor} {chain : List Feature}
    (h : m.Spells a f chain) {last : Bool} (hm : m.IsComposable last) :
    ∀ segment ∈ f.path, segment ≠ "" := by
  induction h generalizing last with
  | literal text =>
    intro segment hmem
    rw [List.mem_singleton.1 hmem]
    exact hm
  | segment hc ha ht =>
    intro segment hmem
    rw [List.mem_singleton.1 hmem]
    exact ht
  | skip hf hn ihf ihn =>
    intro segment hmem
    exact (List.mem_append.1 hmem).elim (ihf hm.1 segment) (ihn hm.2 segment)
  | take hf hn ihf ihn =>
    intro segment hmem
    exact (List.mem_append.1 hmem).elim (ihf hm.1 segment) (ihn hm.2 segment)
  | whole h ih => exact ih hm.2
  | map hc hb h ih => exact ih hm
  | choice i hbefore h ih => exact ih (hm i)
  | _ => exact nofun

end Signpost.Matcher
