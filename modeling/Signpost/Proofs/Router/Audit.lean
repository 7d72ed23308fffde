import Signpost.Proofs.Cursor.Target
import Signpost.Proofs.Matcher.RoundTrip
import Signpost.Router

/-!
# Audits of spelled routes

* `Router.reread_eq`: a written cursor is read again as it was, with its method set.
* `Router.resolve_of_spells`: a cursor that carries the spelling of a route is resolved to it.
* `Router.audit_of_spells`: a route that is spelled along a sound chain passes its audit.
-/

namespace Signpost

/-- A fragment carries itself. -/
theorem Cursor.Fits.carries {f : Cursor} {chain : List Feature} (hf : f.Fits chain)
    (hs : IsSound chain) : (f.setMethod f.method).Carries f chain [] where
  wellFormed := hf.wellFormed
  path := (List.append_nil f.path).symm
  find? _ _ := rfl
  method m hm := by
    rw [setMethod, method, method, hf.method?_eq hs hm]
    rfl
  body _ := ⟨rfl, rfl⟩

namespace Router

variable {α : Type}

/-- A written cursor without empty segments is read again as it was. -/
theorem reread_eq {f : Cursor} (hq : f.query.WellFormed) (hpath : ∀ segment ∈ f.path, segment ≠ "")
    (hm : f.malformed = none) (hsize : f.pathString.utf8ByteSize ≤ Http.Uri.maxBytes) :
    reread f = .ok (f.setMethod f.method) := by
  have hfilter : f.path.filter (· ≠ "") = f.path :=
    List.filter_eq_self.2 fun segment hmem => decide_eq_true (hpath segment hmem)
  rw [reread, Cursor.ofUri_pathString f.method hq, if_pos hsize, hfilter]
  dsimp only [Cursor.setMethod]
  rw [hm]

/-- A cursor that is too long for a uri cannot be read again. -/
theorem reread_of_lt {f : Cursor} (hq : f.query.WellFormed)
    (hsize : Http.Uri.maxBytes < f.pathString.utf8ByteSize) : reread f = .error .invalidUri := by
  rw [reread, Cursor.ofUri_pathString f.method hq, if_neg (Nat.not_le.2 hsize)]

theorem print_root_of_tryPrint {r : Router α} {a : α} {f : Cursor} (h : r.tryPrint a = .ok f) :
    r.root.print a .empty = (.ok (), f) := by
  unfold tryPrint at h
  split at h
  · rename_i hprint
    rw [hprint, Except.ok.inj h]
  · cases h

theorem tryPrint_of_spells {r : Router α} {a : α} {f : Cursor} {chain : List Feature}
    (h : r.root.Spells a f chain) : r.tryPrint a = .ok f := by
  rw [tryPrint, h.print]

/-- A request that is read whole is resolved to what was read. -/
theorem resolve_of_parse {r : Router α} {a : α} {d e : Cursor} (hm : d.malformed = none)
    (he : r.root.parse d = (.ok a, e)) (hpath : e.isPathConsumed = true) (hbody : e.isBodyConsumed = true) :
    r.resolve d = .ok a := by
  rw [resolve, hm]
  simp only [he, hpath, hbody]
  rfl

/-- A request that is not read is not resolved, for the same reason. -/
theorem resolve_of_parse_error {r : Router α} {d e : Cursor} {cause : MatchError} (hm : d.malformed = none)
    (he : r.root.parse d = (.error cause, e)) : r.resolve d = .error cause := by
  rw [resolve, hm]
  simp only [he]

/-- A cursor that carries the spelling of a route and no other body is resolved to that route. -/
theorem resolve_of_spells {r : Router α} {a : α} {f : Cursor} {chain : List Feature}
    (h : r.root.Spells a f chain) (hr : r.root.IsComposable true) (hs : IsSound chain) {d : Cursor}
    (hd : d.Carries f chain []) (hm : d.malformed = none) (hbody : .body ∉ chain → d.body = none)
    (hp : r.root.Prevails a d) : r.resolve d = .ok a := by
  obtain ⟨e, he, hspent⟩ := h.parse hr hs (fun _ => rfl) hd hp
  have hpath : e.isPathConsumed = true := by
    rw [Cursor.isPathConsumed, hspent.path]
    rfl
  have hrest : e.isBodyConsumed = true := by
    rw [Cursor.isBodyConsumed, hspent.body]
    split_ifs with hmem
    · rfl
    · rw [hbody hmem]
      rfl
  exact resolve_of_parse hm he hpath hrest

/-- A route that is spelled along a sound chain passes its audit, unless its target is too long. -/
theorem audit_of_spells [DecidableEq α] {r : Router α} {a : α} {f : Cursor} {chain : List Feature}
    (h : r.root.Spells a f chain) (hr : r.root.IsComposable true) (hs : IsSound chain)
    (hsize : f.pathString.utf8ByteSize ≤ Http.Uri.maxBytes)
    (hp : r.root.Prevails a (f.setMethod f.method)) : r.audit a = .ok () := by
  have hfits := h.fits
  have hagain := reread_eq hfits.wellFormed (h.ne_empty_of_mem_path hr) hfits.malformed hsize
  have hresolve := resolve_of_spells h hr hs (hfits.carries hs) hfits.malformed
    (fun hb => (hfits.body hb).1) hp
  rw [audit, tryPrint_of_spells h]
  simp only [hagain, hresolve, if_true]

end Router

end Signpost
