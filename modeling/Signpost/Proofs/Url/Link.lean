import Mathlib.Data.List.TakeWhile
import Signpost.Proofs.Url.Host
import Signpost.Proofs.Url.Path

/-!
# Urls behind an origin

A base url is kept in a normal form. The text of its origin, with any path and query behind it, is read as a
url with the same scheme, host and port.

* `BaseUrl.IsNormal`: what reading a base url gives, and reads as itself.
* `isNormal_of_parse`: base urls are normal.
* `parse_origin_append`: what is read from an origin with a path and a query behind it.
-/

namespace Signpost

namespace Url

variable {names : NameReading}

/-! ## Authorities -/

/-- A host with a port behind it. -/
def authorityText (h : List Char) (port : Option Nat) : List Char :=
  h ++ port.elim [] fun n => ':' :: Decimal.digits n

theorem splitPort_append {cs : List Char} (h : ∀ c ∈ cs, c ≠ ':' ∧ c ≠ '[' ∧ c ≠ ']') (rest : List Char) :
    splitPort false (cs ++ rest) = (cs ++ (splitPort false rest).1, (splitPort false rest).2) := by
  induction cs with
  | nil => rfl
  | cons c cs ih =>
    obtain ⟨hcolon, hopen, hclose⟩ := h c (by simp)
    rw [List.cons_append, splitPort, if_neg (by simp [hcolon]), if_neg hopen, if_neg hclose,
      ih fun x hx => h x (by simp [hx])]
    rfl

/-- A colon in brackets belongs to the host. -/
theorem splitPort_brackets {cs : List Char} (h : ∀ c ∈ cs, c ≠ '[' ∧ c ≠ ']') (rest : List Char) :
    splitPort true (cs ++ ']' :: rest) =
      (cs ++ ']' :: (splitPort false rest).1, (splitPort false rest).2) := by
  induction cs with
  | nil => rfl
  | cons c cs ih =>
    obtain ⟨hopen, hclose⟩ := h c (by simp)
    rw [List.cons_append, splitPort, if_neg (by simp), if_neg hopen, if_neg hclose,
      ih fun x hx => h x (by simp [hx])]
    rfl

theorem splitPort_bracketedText (a : Host.Ipv6) (rest : List Char) :
    splitPort false (bracketedText a ++ rest) =
      (bracketedText a ++ (splitPort false rest).1, (splitPort false rest).2) := by
  have hno : ∀ c ∈ a.text, c ≠ '[' ∧ c ≠ ']' := by
    intro c hc
    rcases Host.Ipv6.of_mem_text hc with hc | rfl
    · refine ⟨?_, ?_⟩
      all_goals
        rintro rfl
        exact absurd hc (by decide)
    · decide
  have htext : bracketedText a ++ rest = '[' :: (a.text ++ ']' :: rest) := by simp [bracketedText]
  rw [htext, splitPort, if_neg (by simp), if_pos rfl, splitPort_brackets hno]
  simp [bracketedText]

/-- The port stands behind the host. -/
theorem splitPort_authorityText {h : List Char} (hh : IsNormalHost names h) (port : Option Nat) :
    splitPort false (authorityText h port) = (h, port.map Decimal.digits) := by
  have hport : splitPort false (port.elim [] fun n => ':' :: Decimal.digits n) =
      ([], port.map Decimal.digits) := by
    rcases port with _ | n
    · rfl
    · exact if_pos (by decide)
  unfold authorityText
  rcases hh.chars with ⟨a, rfl⟩ | ⟨-, hchars⟩
  · rw [splitPort_bracketedText, hport, List.append_nil]
  · rw [splitPort_append, hport, List.append_nil]
    intro c hc
    refine ⟨?_, ?_, ?_⟩
    all_goals
      rintro rfl
      exact absurd (hchars _ hc) (by decide)

/-- The character ends no authority and no user information, and is no blank. -/
def IsAuthorityChar (c : Char) : Prop :=
  isSlash c = false ∧ endsPath c = false ∧ c ≠ '@' ∧ 0x20 < c.toNat

instance (c : Char) : Decidable (IsAuthorityChar c) := inferInstanceAs (Decidable (_ ∧ _))

theorem isAuthorityChar_of_isAlphanum {c : Char} (h : c.isAlphanum = true) : IsAuthorityChar c := by
  have all : ∀ n : Fin 128, (Char.ofNat n).isAlphanum = true → IsAuthorityChar (Char.ofNat n) := by decide
  exact of_toNat_lt_128 (P := fun c => c.isAlphanum = true → IsAuthorityChar c) all
    (toNat_lt_of_isAlphanum h) h

/-- Names may hold no other characters. -/
theorem isAuthorityChar_of_isForbiddenInName {c : Char} (h : isForbiddenInName c = false) :
    IsAuthorityChar c := by
  have hne {x : Char} (hx : isForbiddenInName x = true) : c ≠ x := by
    rintro rfl
    rw [h] at hx
    cases hx
  have hslash : isSlash c = false := by
    simp [isSlash, hne (x := '/') (by decide), hne (x := '\\') (by decide)]
  have hends : endsPath c = false := by
    simp [endsPath, hne (x := '?') (by decide), hne (x := '#') (by decide)]
  have hblank : ¬c.toNat ≤ 0x20 := by
    intro hle
    have all : ∀ n : Fin 33, isForbiddenInName (Char.ofNat n) = true := by decide
    have hc := all ⟨c.toNat, by omega⟩
    rw [Char.ofNat_toNat] at hc
    exact hne hc rfl
  exact ⟨hslash, hends, hne (by decide), Nat.lt_of_not_le hblank⟩

theorem isAuthorityChar_of_mem_authorityText {h : List Char} (hh : IsNormalHost names h) {port : Option Nat}
    {c : Char} (hc : c ∈ authorityText h port) : IsAuthorityChar c := by
  rcases List.mem_append.1 hc with hc | hc
  · rcases hh.chars with ⟨a, rfl⟩ | ⟨-, hchars⟩
    · simp only [bracketedText, List.mem_cons, List.mem_append, List.not_mem_nil, or_false] at hc
      rcases hc with rfl | hc | rfl
      · decide
      · rcases Host.Ipv6.of_mem_text hc with hc | rfl
        · exact isAuthorityChar_of_isAlphanum hc
        · decide
      · decide
    · exact isAuthorityChar_of_isForbiddenInName (hchars c hc)
  · rcases port with _ | n
    · cases hc
    · rcases List.mem_cons.1 hc with rfl | hc
      · decide
      · exact isAuthorityChar_of_isAlphanum
          (by rw [Char.isAlphanum, Decimal.isDigit_of_mem_digits hc, Bool.or_true])

/-- A normal host with a port other than the default one is read as itself. -/
theorem authority?_authorityText {h : List Char} (hh : IsNormalHost names h) {defaultPort : Nat}
    {port : Option Nat} (hport : ∀ n ∈ port, n ≤ 65535 ∧ n ≠ defaultPort) :
    authority? names defaultPort (authorityText h port) = some { host := String.ofList h, port } := by
  have hat : ∀ c ∈ (authorityText h port).reverse, decide (c = '@') = false := fun c hc =>
    decide_eq_false (isAuthorityChar_of_mem_authorityText hh (List.mem_reverse.1 hc)).2.2.1
  have huser : splitUser (authorityText h port) = (none, authorityText h port) := by
    rw [splitUser, cut_of_forall hat]
  unfold authority?
  simp only [huser, splitPort_authorityText hh, hh.host]
  rcases port with _ | n
  · rfl
  · obtain ⟨hle, hne⟩ := hport n rfl
    have hdigits : (Decimal.digits n).isEmpty = false := by
      rw [Bool.eq_false_iff]
      exact fun hnil => Decimal.digits_ne_nil n (List.isEmpty_iff.1 hnil)
    have hread : port? (Decimal.digits n) = some (some n) := by
      simp [port?, hdigits, Decimal.value?_digits, hle]
    have hother : some n ≠ some defaultPort := fun he => hne (Option.some.inj he)
    simp only [Option.map_some, Option.getD_some, hread, Option.bind_eq_bind, Option.bind_some,
      if_neg hother]
    rfl

/-- The authority that was read from a text. -/
theorem of_authority? (hnames : names.Lawful) {defaultPort : Nat} {cs : List Char} {a : Authority}
    (h : authority? names defaultPort cs = some a) :
    IsNormalHost names a.host.toList ∧ ∀ n ∈ a.port, n ≤ 65535 ∧ n ≠ defaultPort := by
  unfold authority? at h
  simp only [Option.bind_eq_bind, Option.bind_eq_some_iff, Option.some.injEq] at h
  obtain ⟨host, hhost, port, hport, rfl⟩ := h
  refine ⟨isNormalHost_of_host? hnames hhost, fun n hn => ?_⟩
  dsimp only at hn
  split_ifs at hn with hdefault
  · cases hn
  · cases hn
    refine ⟨?_, fun he => hdefault (by rw [he])⟩
    unfold port? at hport
    split_ifs at hport
    · cases hport
    · split at hport
      · split_ifs at hport with hle
        cases hport
        exact hle
      · cases hport

/-- The authority ends where the path begins. -/
theorem splitAuthority_append {a rest : List Char} (hne : a ≠ []) (ha : ∀ c ∈ a, IsAuthorityChar c) :
    splitAuthority ('/' :: '/' :: (a ++ '/' :: rest)) = (a, '/' :: rest) := by
  obtain ⟨c, cs, rfl⟩ := List.exists_cons_of_ne_nil hne
  have hdrop : ('/' :: '/' :: (c :: cs ++ '/' :: rest)).dropWhile isSlash = c :: cs ++ '/' :: rest := by
    rw [List.dropWhile_cons_of_pos (by decide), List.dropWhile_cons_of_pos (by decide), List.cons_append,
      List.dropWhile_cons_of_neg (by simp [(ha c List.mem_cons_self).1])]
  have htake : (c :: cs ++ '/' :: rest).takeWhile (fun c => !isSlash c && !endsPath c) = c :: cs := by
    rw [List.takeWhile_append_of_pos fun x hx => by simp [(ha x hx).1, (ha x hx).2.1],
      List.takeWhile_cons_of_neg (by decide), List.append_nil]
  unfold splitAuthority
  simp only [hdrop, htake, List.drop_left]

/-! ## Schemes -/

/-- Text without blanks is tidy. -/
theorem tidy_of_forall {cs : List Char} (h : ∀ c ∈ cs, 0x20 < c.toNat) : tidy cs = cs := by
  have hdrop (ds : List Char) (hds : ∀ c ∈ ds, 0x20 < c.toNat) :
      ds.dropWhile (fun c => decide (c.toNat ≤ 0x20)) = ds := by
    rcases ds with _ | ⟨c, ds⟩
    · rfl
    · have hc := hds c (by simp)
      rw [List.dropWhile_cons_of_neg (by simpa using hc)]
  have hdrop' : cs.reverse.dropWhile (fun c => decide (c.toNat ≤ 0x20)) = cs.reverse :=
    hdrop _ fun c hc => h c (List.mem_reverse.1 hc)
  unfold tidy
  dsimp only
  rw [hdrop cs h, hdrop', List.reverse_reverse, List.filter_eq_self]
  intro c hc
  have hlt := h c hc
  have hne {x : Char} (hx : x.toNat ≤ 0x20) : c ≠ x := by
    rintro rfl
    omega
  simp [hne (x := '\t') (by decide), hne (x := '\n') (by decide), hne (x := '\r') (by decide)]

theorem scheme?_http (secure : Bool) (rest : List Char) :
    scheme? ((if secure then "https" else "http").toList ++ ':' :: rest) =
      some (if secure then "https" else "http", rest) := by
  cases secure <;> rfl

end Url

namespace BaseUrl

open Url

variable {names : NameReading}

/-- A base url in its normal form. -/
structure IsNormal (names : NameReading) (u : BaseUrl) : Prop where
  host : IsNormalHost names u.authority.host.toList
  port : ∀ n ∈ u.authority.port, n ≤ 65535 ∧ n ≠ if u.secure then 443 else 80
  path : ∃ segments, (∀ s ∈ segments, IsNormalSegment s) ∧ u.path = String.ofList (slashed segments)

theorem isNormal_of_ofRest? (hnames : names.Lawful) {secure : Bool} {cs : List Char} {u : BaseUrl}
    (h : ofRest? names secure cs = some u) : u.IsNormal names := by
  unfold ofRest? at h
  simp only [Option.bind_eq_bind, Option.bind_eq_some_iff, Option.some.injEq] at h
  obtain ⟨authority, hauthority, rfl⟩ := h
  obtain ⟨hhost, hport⟩ := of_authority? hnames hauthority
  exact ⟨hhost, hport, exists_normal_of_normalPath _⟩

/-- Base urls are normal. -/
theorem isNormal_of_parse (hnames : names.Lawful) {text : String} {u : BaseUrl}
    (h : parse text names = .ok u) : u.IsNormal names := by
  unfold parse at h
  split at h
  · cases h
  · split_ifs at h
    split at h
    · rename_i hrest
      cases h
      exact isNormal_of_ofRest? hnames hrest
    · cases h

/-- The path of a base url without the slashes at its end. -/
theorem IsNormal.exists_basePath {u : BaseUrl} (hu : u.IsNormal names) :
    ∃ segments, (∀ s ∈ segments, IsNormalSegment s) ∧ u.basePath = String.ofList (slashed segments) := by
  obtain ⟨segments, hsegments, hpath⟩ := hu.path
  obtain ⟨kept, hkept, htrimmed⟩ := exists_normal_of_trimmed hsegments
  exact ⟨kept, hkept, by rw [basePath, hpath, String.toList_ofList, htrimmed]⟩

theorem toList_origin (u : BaseUrl) : u.origin.toList =
    (if u.secure then "https" else "http").toList ++
      ':' :: '/' :: '/' :: authorityText u.authority.host.toList u.authority.port := by
  unfold origin scheme authorityText
  rcases u.authority.port with _ | n
  · simp
  · simp [Decimal.digits, toString, Nat.repr]

/-! ## Urls behind an origin -/

section Origin

variable {u : BaseUrl} {path : List Char} {query : Option (List Char)}

/-- A visible character is no blank, and none of the marks. -/
theorem of_isVisibleExcept {marks : String} {c : Char} (h : isVisibleExcept marks c = true) :
    0x20 < c.toNat ∧ c ∉ marks.toList := by
  unfold isVisibleExcept at h
  simp only [Bool.and_eq_true, decide_eq_true_eq] at h
  exact ⟨h.1.1, by simpa using h.2⟩

theorem of_isPathChar {c : Char} (h : isPathChar c = true) : 0x20 < c.toNat ∧ c ≠ '?' ∧ c ≠ '#' := by
  obtain ⟨hvisible, hmarks⟩ := of_isVisibleExcept h
  refine ⟨hvisible, ?_, ?_⟩
  all_goals
    rintro rfl
    exact hmarks (by decide)

theorem of_isQueryChar {c : Char} (h : isQueryChar c = true) : 0x20 < c.toNat ∧ c ≠ '#' := by
  obtain ⟨hvisible, hmarks⟩ := of_isVisibleExcept h
  refine ⟨hvisible, ?_⟩
  rintro rfl
  exact hmarks (by decide)

/-- The text of a path with a query behind it holds no blank and no mark of a fragment. -/
theorem of_mem_target (hpath : ∀ c ∈ path, isPathChar c = true)
    (hquery : ∀ q ∈ query, ∀ c ∈ q, isQueryChar c = true) {c : Char}
    (hc : c ∈ path ++ query.elim [] ('?' :: ·)) : 0x20 < c.toNat ∧ c ≠ '#' := by
  rcases List.mem_append.1 hc with hc | hc
  · obtain ⟨hvisible, -, hfragment⟩ := of_isPathChar (hpath c hc)
    exact ⟨hvisible, hfragment⟩
  · rcases query with _ | q
    · cases hc
    · rcases List.mem_cons.1 hc with rfl | hc
      · decide
      · exact of_isQueryChar (hquery q rfl c hc)

/-- The text of an origin, with text without blanks behind it, is tidy. -/
theorem tidy_origin_append (hu : u.IsNormal names) {cs : List Char} (h : ∀ c ∈ cs, 0x20 < c.toNat) :
    tidy (u.origin ++ String.ofList cs).toList = (if u.secure then "https" else "http").toList ++
      ':' :: '/' :: '/' :: (authorityText u.authority.host.toList u.authority.port ++ cs) := by
  have hscheme : ((if u.secure then "https" else "http").toList.all fun c => decide (0x20 < c.toNat)) =
      true := by
    cases u.secure <;> decide
  rw [String.toList_append, String.toList_ofList, toList_origin, tidy_of_forall]
  · simp
  · intro c hc
    simp only [List.mem_append, List.mem_cons] at hc
    rcases hc with (hc | rfl | rfl | rfl | hc) | hc
    · exact of_decide_eq_true (List.all_eq_true.1 hscheme c hc)
    · decide
    · decide
    · decide
    · exact (isAuthorityChar_of_mem_authorityText hu.host hc).2.2.2
    · exact h c hc

/-- Behind the scheme, an authority with a path and a query is read as these. -/
theorem ofRest?_authorityText (hu : u.IsNormal names) {rest : List Char} (hstart : path = '/' :: rest)
    (hpath : ∀ c ∈ path, isPathChar c = true)
    (hquery : ∀ q ∈ query, ∀ c ∈ q, isQueryChar c = true) :
    ofRest? names u.secure ('/' :: '/' :: (authorityText u.authority.host.toList u.authority.port ++
      (path ++ query.elim [] ('?' :: ·)))) =
      some { secure := u.secure, authority := { host := u.authority.host, port := u.authority.port },
             path := normalPath path, query := query.map String.ofList } := by
  have hfragment : cut (· = '#') (path ++ query.elim [] ('?' :: ·)) =
      (path ++ query.elim [] ('?' :: ·), none) :=
    cut_of_forall fun c hc => decide_eq_false (of_mem_target hpath hquery hc).2
  have hno : ∀ c ∈ path, decide (c = '?') = false := fun c hc =>
    decide_eq_false (of_isPathChar (hpath c hc)).2.1
  have hcut : cut (· = '?') (path ++ query.elim [] ('?' :: ·)) = (path, query) := by
    rcases query with _ | q
    · simpa using cut_of_forall hno
    · exact cut_append_cons hno (by decide) q
  have hescape : query.map (fun q => String.ofList (Percent.escape isQueryChar q)) =
      query.map String.ofList := by
    rcases query with _ | q
    · rfl
    · rw [Option.map_some, Option.map_some, escape_of_forall (hquery q rfl)]
  have hauthority : splitAuthority ('/' :: '/' ::
      (authorityText u.authority.host.toList u.authority.port ++ (path ++ query.elim [] ('?' :: ·)))) =
      (authorityText u.authority.host.toList u.authority.port, path ++ query.elim [] ('?' :: ·)) := by
    rw [hstart, List.cons_append]
    exact splitAuthority_append (List.append_ne_nil_of_left_ne_nil hu.host.ne_nil _)
      fun c hc => isAuthorityChar_of_mem_authorityText hu.host hc
  unfold ofRest?
  simp only [hauthority, authority?_authorityText hu.host hu.port, hfragment, hcut, hescape,
    String.ofList_toList, Option.map_none]
  rfl

/-- An origin with a path and a query behind it is a url with its scheme, host and port. -/
theorem parse_origin_append (hu : u.IsNormal names) {rest : List Char} (hstart : path = '/' :: rest)
    (hpath : ∀ c ∈ path, isPathChar c = true)
    (hquery : ∀ q ∈ query, ∀ c ∈ q, isQueryChar c = true) :
    parse (u.origin ++ String.ofList (path ++ query.elim [] ('?' :: ·))) names =
      .ok { secure := u.secure, authority := { host := u.authority.host, port := u.authority.port },
            path := normalPath path, query := query.map String.ofList } := by
  have htidy := tidy_origin_append hu fun c hc => (of_mem_target hpath hquery hc).1
  have hrest := ofRest?_authorityText hu hstart hpath hquery
  unfold parse
  rw [htidy, scheme?_http]
  dsimp only
  rcases hsecure : u.secure with _ | _
  · rw [hsecure] at hrest
    simp [hrest]
  · rw [hsecure] at hrest
    simp [hrest]

end Origin

end BaseUrl

end Signpost
