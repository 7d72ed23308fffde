import Signpost.Proofs.Matcher.Exclusive

/-!
# Shapes of requests

The shapes of a matcher say which methods it asks for and what stands in the path, segment by segment.
They are computed, and so is whether two of them exclude each other.

* `shapes`: one shape for each way through the alternatives of a matcher.
* `exists_covers_of_admits`: a request that a matcher admits is covered by one of its shapes.
* `apart_of_conflicts`: matchers whose shapes conflict are apart.
-/

namespace Signpost

/-- What may stand at one place of a path. -/
inductive Place where
  | text (text : String)
  | value (accepts : String → Bool)

namespace Place

/-- The segment may stand at the place. -/
def accepts : Place → String → Bool
  | text t, segment => segment = t
  | value accepts, segment => accepts segment

/-- No segment may stand at both places. -/
def conflicts : Place → Place → Bool
  | text t, other => !other.accepts t
  | value accepts, text t => !accepts t
  | value _, value _ => false

theorem not_accepts_of_conflicts {x y : Place} (h : x.conflicts y = true) {segment : String}
    (hx : x.accepts segment = true) : y.accepts segment = false := by
  cases x with
  | text t =>
    rw [of_decide_eq_true hx]
    simpa [conflicts] using h
  | value accepts =>
    cases y with
    | text t =>
      rw [Place.accepts, decide_eq_false_iff_not]
      rintro rfl
      have hno : accepts segment = false := by simpa [conflicts] using h
      have hyes : accepts segment = true := hx
      rw [hno] at hyes
      cases hyes
    | value _ => cases h

end Place

/-- The methods that are asked for, the places of the path, and whether nothing follows them. -/
structure Shape where
  methods : List Http.Method := []
  path : List Place := []
  closed : Bool := false

namespace Shape

/-- The request has the methods of the shape, and the path `p` its places in front of `q`. -/
structure Covers (s : Shape) (method : Http.Method) (p q : List String) : Prop where
  method : ∀ m ∈ s.methods, method = m
  path : ∃ segments, List.Forall₂ (fun (place : Place) segment => place.accepts segment = true)
    s.path segments ∧ p = segments ++ q
  closed : s.closed = true → q = []

/-- One shape behind another. -/
def followedBy (s t : Shape) : Shape where
  methods := s.methods ++ t.methods
  path := s.path ++ t.path
  closed := t.closed

/-- No request has both shapes: methods or places conflict, or one path is too short. -/
def conflicts (s t : Shape) : Bool :=
  s.methods.any (fun m => t.methods.any fun n => m ≠ n) ||
    (s.path.zip t.path).any (fun (x, y) => x.conflicts y) ||
    s.closed && decide (s.path.length < t.path.length) ||
    t.closed && decide (t.path.length < s.path.length)

variable {s t : Shape} {method : Http.Method} {p q q' r : List String}

theorem Covers.followedBy (hs : s.Covers method p r) (ht : t.Covers method r q) :
    (s.followedBy t).Covers method p q where
  method m hm := (List.mem_append.1 hm).elim (hs.method m) (ht.method m)
  path := by
    obtain ⟨first, hfirst, rfl⟩ := hs.path
    obtain ⟨second, hsecond, rfl⟩ := ht.path
    exact ⟨first ++ second, List.rel_append hfirst hsecond, by rw [List.append_assoc]⟩
  closed := ht.closed

/-- Places that the same path fills do not conflict. -/
theorem not_conflicts_of_forall₂ {xs ys : List Place} {segments segments' : List String}
    (hx : List.Forall₂ (fun (place : Place) segment => place.accepts segment = true) xs segments)
    (hy : List.Forall₂ (fun (place : Place) segment => place.accepts segment = true) ys segments')
    (h : segments ++ q = segments' ++ q') :
    (xs.zip ys).any (fun (x, y) => x.conflicts y) = false := by
  induction hx generalizing ys segments' with
  | nil => rfl
  | @cons x segment xs segments hsegment _ ih =>
    cases hy with
    | nil => rfl
    | @cons y segment' ys segments' hsegment' hrest =>
      rw [List.cons_append, List.cons_append] at h
      obtain ⟨rfl, htail⟩ := List.cons.inj h
      have hhead : x.conflicts y = false := by
        rw [Bool.eq_false_iff]
        intro hconflict
        rw [Place.not_accepts_of_conflicts hconflict hsegment] at hsegment'
        cases hsegment'
      rw [List.zip_cons_cons, List.any_cons, ih hrest htail, Bool.or_false]
      exact hhead

/-- No request is covered by conflicting shapes. -/
theorem Covers.not_conflicts (hs : s.Covers method p q) (ht : t.Covers method p q') :
    s.conflicts t = false := by
  obtain ⟨segments, hsegments, hp⟩ := hs.path
  obtain ⟨segments', hsegments', hp'⟩ := ht.path
  have hmethods : s.methods.any (fun m => t.methods.any fun n => m ≠ n) = false := by
    rw [List.any_eq_false]
    intro m hm hany
    obtain ⟨n, hn, hne⟩ := List.any_eq_true.1 hany
    exact of_decide_eq_true hne ((hs.method m hm).symm.trans (ht.method n hn))
  have hplaces := not_conflicts_of_forall₂ hsegments hsegments' (hp.symm.trans hp')
  have hlength : segments.length + q.length = segments'.length + q'.length := by
    rw [← List.length_append, ← List.length_append, ← hp, ← hp']
  have hclosed : (s.closed && decide (s.path.length < t.path.length)) = false := by
    rw [Bool.and_eq_false_imp]
    intro hc
    rw [hs.closed hc, List.length_nil] at hlength
    rw [decide_eq_false_iff_not, hsegments.length_eq, hsegments'.length_eq]
    omega
  have hclosed' : (t.closed && decide (t.path.length < s.path.length)) = false := by
    rw [Bool.and_eq_false_imp]
    intro hc
    rw [ht.closed hc, List.length_nil] at hlength
    rw [decide_eq_false_iff_not, hsegments.length_eq, hsegments'.length_eq]
    omega
  rw [conflicts, hmethods, hplaces, hclosed, hclosed']
  rfl

end Shape

namespace Matcher

variable {α β : Type}

/-- The shapes of the requests that a matcher reads. -/
def shapes : {α : Type} → Matcher α → List Shape
  | _, literal text => [{ path := [.text text] }]
  | _, method m => [{ methods := [m] }]
  | _, segment c => [{ path := [.value fun text => (c.apply text).isSome] }]
  | _, skip first next => first.shapes.flatMap fun s => next.shapes.map s.followedBy
  | _, take first next => first.shapes.flatMap fun s => next.shapes.map s.followedBy
  | _, whole inner => inner.shapes.map fun s => { s with closed := true }
  | _, map inner _ => inner.shapes
  | _, choice _ alternative => (List.ofFn fun i => (alternative i).shapes).flatten
  | _, _ => [{}]

theorem covers_nil (method : Http.Method) (p : List String) : ({} : Shape).Covers method p p where
  method _ h := nomatch h
  path := ⟨[], .nil, rfl⟩
  closed h := nomatch h

/-- The shapes of two matchers in order cover what both admit. -/
theorem exists_covers_append {first : Matcher α} {next : Matcher β} {method : Http.Method}
    {p q r : List String} (hfirst : ∃ s ∈ first.shapes, s.Covers method p r)
    (hnext : ∃ s ∈ next.shapes, s.Covers method r q) :
    ∃ s ∈ first.shapes.flatMap fun s => next.shapes.map s.followedBy, s.Covers method p q := by
  obtain ⟨s, hs, hcovers⟩ := hfirst
  obtain ⟨t, ht, hcovers'⟩ := hnext
  exact ⟨_, List.mem_flatMap.2 ⟨s, hs, List.mem_map_of_mem ht⟩, hcovers.followedBy hcovers'⟩

/-- A request that a matcher admits has one of its shapes. -/
theorem exists_covers_of_admits {m : Matcher α} {method : Http.Method} {p q : List String}
    (h : m.Admits method p q) : ∃ s ∈ m.shapes, s.Covers method p q := by
  induction m generalizing p q with
  | literal text =>
    have hpath : p = text :: q := h
    subst hpath
    refine ⟨_, List.mem_singleton_self _, nofun, ⟨[text], ?_, rfl⟩, nofun⟩
    exact .cons (decide_eq_true rfl) .nil
  | method m =>
    obtain ⟨hmethod, rfl⟩ := h
    refine ⟨_, List.mem_singleton_self _, ?_, ⟨[], .nil, rfl⟩, nofun⟩
    intro n hn
    rw [List.mem_singleton.1 hn, hmethod]
  | segment c =>
    obtain ⟨text, a, ha, rfl⟩ := h
    refine ⟨_, List.mem_singleton_self _, nofun, ⟨[text], ?_, rfl⟩, nofun⟩
    exact .cons (by rw [Place.accepts, ha]; rfl) .nil
  | skip first next ihf ihn =>
    obtain ⟨r, hf, hn⟩ := h
    exact exists_covers_append (ihf hf) (ihn hn)
  | take first next ihf ihn =>
    obtain ⟨r, hf, hn⟩ := h
    exact exists_covers_append (ihf hf) (ihn hn)
  | whole inner ih =>
    obtain ⟨rfl, hi⟩ := h
    obtain ⟨s, hs, hcovers⟩ := ih hi
    exact ⟨_, List.mem_map_of_mem hs, hcovers.method, hcovers.path, fun _ => rfl⟩
  | map inner c ih => exact ih h
  | choice count alternative ih =>
    obtain ⟨i, hi⟩ := h
    obtain ⟨s, hs, hcovers⟩ := ih i hi
    exact ⟨s, List.mem_flatten.2 ⟨_, List.mem_ofFn.2 ⟨i, rfl⟩, hs⟩, hcovers⟩
  | _ =>
    have hpath : p = q := h
    subst hpath
    exact ⟨_, List.mem_singleton_self _, covers_nil method p⟩

/-! ## Conflicts -/

/-- All shapes of one matcher conflict with all of the other. -/
def conflicts (m n : Matcher α) : Bool := m.shapes.all fun s => n.shapes.all fun t => s.conflicts t

/-- Matchers whose shapes conflict are apart. -/
theorem apart_of_conflicts {m n : Matcher α} (h : m.conflicts n = true) : m.Apart n := by
  intro method p q q' hm hn
  obtain ⟨s, hs, hcovers⟩ := exists_covers_of_admits hm
  obtain ⟨t, ht, hcovers'⟩ := exists_covers_of_admits hn
  have hconflict := List.all_eq_true.1 (List.all_eq_true.1 h s hs) t ht
  rw [hcovers.not_conflicts hcovers'] at hconflict
  cases hconflict

end Matcher

end Signpost
