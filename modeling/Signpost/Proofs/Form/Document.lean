import Mathlib.Data.List.Basic
import Signpost.Form.Reader
import Signpost.Form.Writer
import Signpost.Proofs.Cursor.Target
import Signpost.Proofs.Form.Tree
import Signpost.Proofs.Text.Decimal

/-!
# Form documents read back

* `pairs_eq_map`: the pairs of a tree are its leaves, each behind the key.
* `parts?_tailBytes`, `pair?_written`: a written leaf is read as its parts and its text.
* `parse?_render`: the document of a written tree is read as that tree.
-/

namespace Signpost.Form

/-! ## Pairs of leaves -/

/-- What stands in the bracket of a part. -/
def Part.inner : Part → List Char
  | .name key => Urlencoded.encode key.toList
  | .position index => Decimal.digits index
  | .append => []

/-- The brackets of a leaf and its text. -/
def leafText (leaf : List Part × String) : List Char :=
  leaf.1.flatMap (fun part => bracketed part.inner) ++ '=' :: Urlencoded.encode leaf.2.toList

theorem map_leafText_below (key : List Char) (part : Part) (leaves : List (List Part × String)) :
    (leaves.map (below part)).map (fun leaf => key ++ leafText leaf) =
      leaves.map fun leaf => key ++ bracketed part.inner ++ leafText leaf := by
  rw [List.map_map]
  refine List.map_congr_left fun leaf _ => ?_
  simp [below, leafText]

mutual

/-- The pairs of a tree are its leaves behind the key. -/
theorem pairs_eq_map : ∀ (node : Node) (key : List Char),
    node.pairs key = node.leaves.map fun leaf => key ++ leafText leaf
  | .flat _, _ => rfl
  | .fields es, key => fieldPairs_eq_map es key
  | .positions es, key => positionPairs_eq_map es key
  | .items texts, key => by simp [Node.pairs, Node.leaves, leafText, Part.inner]
  | .invalid, _ => rfl

theorem fieldPairs_eq_map : ∀ (es : List (String × Node)) (key : List Char),
    fieldPairs key es = (fieldLeaves es).map fun leaf => key ++ leafText leaf
  | [], _ => rfl
  | (name, node) :: es, key => by
    rw [fieldPairs, fieldLeaves, List.map_append, map_leafText_below, pairs_eq_map, fieldPairs_eq_map]
    rfl

theorem positionPairs_eq_map : ∀ (es : List (Nat × Node)) (key : List Char),
    positionPairs key es = (positionLeaves es).map fun leaf => key ++ leafText leaf
  | [], _ => rfl
  | (index, node) :: es, key => by
    rw [positionPairs, positionLeaves, List.map_append, map_leafText_below, pairs_eq_map,
      positionPairs_eq_map]
    rfl

end

/-! ## Bytes of keys -/

/-- A byte that ends neither a name nor a pair and begins no bracket. -/
def IsKeyByte (b : UInt8) : Prop :=
  ¬b < 0x20 ∧ ¬0x7E < b ∧ b ≠ openBracket ∧ b ≠ closeBracket ∧ b ≠ equalsSign ∧ b ≠ ampersand

instance (b : UInt8) : Decidable (IsKeyByte b) := inferInstanceAs (Decidable (_ ∧ _))

theorem toNat_lt_of_mem_encode {cs : List Char} {c : Char} (h : c ∈ Urlencoded.encode cs) :
    c.toNat < 128 := by
  rcases Urlencoded.mem_encode h with h | rfl | rfl
  · exact Cursor.toNat_lt_of_isPlain h
  · decide
  · decide

/-- The written form of a text. -/
def encoded (cs : List Char) : Bytes := Utf8.encode (Urlencoded.encode cs)

theorem encoded_eq_map (cs : List Char) :
    encoded cs = (Urlencoded.encode cs).map fun c => UInt8.ofNat c.toNat :=
  Utf8.encode_of_forall_lt fun _ hc => toNat_lt_of_mem_encode hc

theorem isKeyByte_of_isPlain {c : Char} (h : Urlencoded.isPlain c = true) :
    IsKeyByte (UInt8.ofNat c.toNat) := by
  have all : ∀ n : Fin 128, Urlencoded.isPlain (Char.ofNat n) = true →
      IsKeyByte (UInt8.ofNat (Char.ofNat n).toNat) := by
    decide
  exact of_toNat_lt_128 (P := fun c => Urlencoded.isPlain c = true →
    IsKeyByte (UInt8.ofNat c.toNat)) all (Cursor.toNat_lt_of_isPlain h) h

theorem isKeyByte_of_mem_encoded {cs : List Char} {b : UInt8} (h : b ∈ encoded cs) : IsKeyByte b := by
  rw [encoded_eq_map] at h
  obtain ⟨c, hc, rfl⟩ := List.mem_map.1 h
  rcases Urlencoded.mem_encode hc with hc | rfl | rfl
  · exact isKeyByte_of_isPlain hc
  · decide
  · decide

/-- A written text is read as that text. -/
theorem text?_encoded (text : String) : text? (encoded text.toList) = some text := by
  rw [text?, encoded, Urlencoded.decodeBytes_encode, Utf8.decode?_encode, Option.map_some,
    String.ofList_toList]

/-- Digits are written as they are. -/
theorem encode_of_forall_isDigit {cs : List Char} (h : ∀ c ∈ cs, c.isDigit = true) :
    Urlencoded.encode cs = cs := by
  induction cs with
  | nil => rfl
  | cons c cs ih =>
    have hdigit : c.isDigit = true := h c (by simp)
    have hne : c ≠ ' ' := by
      rintro rfl
      revert hdigit
      decide
    have hplain : Urlencoded.isPlain c = true := by
      simp [Urlencoded.isPlain, Char.isAlphanum, hdigit]
    have hrest := ih fun c hc => h c (List.mem_cons_of_mem _ hc)
    rw [Urlencoded.encode, List.flatMap_cons, Urlencoded.encodeChar, if_neg hne, Percent.escapeChar,
      if_pos hplain, ← Urlencoded.encode, hrest, List.singleton_append]

theorem encode_digits (n : Nat) : Urlencoded.encode (Decimal.digits n) = Decimal.digits n :=
  encode_of_forall_isDigit fun _ hc => Decimal.isDigit_of_mem_digits hc

/-- The byte of a digit. -/
def IsDigitByte (b : UInt8) : Prop := 0x30 ≤ b ∧ b ≤ 0x39

instance (b : UInt8) : Decidable (IsDigitByte b) := inferInstanceAs (Decidable (_ ∧ _))

theorem isDigitByte_iff {c : Char} (h : c.toNat < 128) :
    IsDigitByte (UInt8.ofNat c.toNat) ↔ c.isDigit = true := by
  have all : ∀ n : Fin 128,
      (IsDigitByte (UInt8.ofNat (Char.ofNat n).toNat) ↔ (Char.ofNat n).isDigit = true) := by
    decide
  exact of_toNat_lt_128 (P := fun c => IsDigitByte (UInt8.ofNat c.toNat) ↔ c.isDigit = true) all h

/-- A name is written with a first byte that is no digit. -/
theorem encoded_of_isName {name : String} (h : IsName name) :
    ∃ b bs, encoded name.toList = b :: bs ∧ ¬IsDigitByte b := by
  obtain ⟨c, cs, hname, hc⟩ := h
  have hfirst : ∃ x xs, Urlencoded.encode name.toList = x :: xs ∧ x.isDigit = false := by
    rw [hname, Urlencoded.encode, List.flatMap_cons, Urlencoded.encodeChar]
    split_ifs with hspace
    · exact ⟨_, _, rfl, by decide⟩
    · rw [Percent.escapeChar]
      split_ifs with hplain
      · exact ⟨_, _, rfl, hc⟩
      · have hne : String.utf8EncodeChar c ≠ [] := String.utf8EncodeChar_ne_nil
        obtain ⟨b, bs, hbytes⟩ := List.exists_cons_of_ne_nil hne
        rw [hbytes]
        exact ⟨_, _, rfl, by decide⟩
  obtain ⟨x, xs, hx, hdigit⟩ := hfirst
  refine ⟨_, _, by rw [encoded_eq_map, hx, List.map_cons], ?_⟩
  rw [isDigitByte_iff (toNat_lt_of_mem_encode (by rw [hx]; exact List.mem_cons_self)), hdigit]
  exact Bool.false_ne_true

/-! ## Brackets -/

/-- What stands up to a closing bracket is the inside of a part. -/
theorem bracket?_append {b : UInt8} {bs : Bytes} (h : ∀ x ∈ b :: bs, IsKeyByte x) (isLast : Bool)
    (rest : Bytes) :
    bracket? isLast (b :: bs ++ closeBracket :: rest) =
      if IsDigitByte b then ((text? (b :: bs)).bind index?).map fun index => (.position index, rest)
      else (text? (b :: bs)).map fun key => (.name key, rest) := by
  obtain ⟨hlow, hhigh, hopen, hclose, -, -⟩ := h b (by simp)
  have htake : (b :: (bs ++ closeBracket :: rest)).takeWhile (· ≠ closeBracket) = b :: bs := by
    rw [← List.cons_append, List.takeWhile_append_of_pos fun x hx => by simp [(h x hx).2.2.2.1]]
    simp
  have hdrop : ((b :: (bs ++ closeBracket :: rest)).drop (b :: bs).length).tail = rest := by
    rw [← List.cons_append, List.drop_left, List.tail_cons]
  rw [List.cons_append, bracket?, if_neg hclose, if_neg (by simp [hopen, hlow, hhigh])]
  simp only [htake, hdrop]
  rfl

theorem encoded_digits_eq_cons (n : Nat) :
    ∃ b bs, encoded (Decimal.digits n) = b :: bs ∧ IsDigitByte b := by
  obtain ⟨c, cs, hcs⟩ := List.exists_cons_of_ne_nil (Decimal.digits_ne_nil n)
  have hmem : c ∈ Decimal.digits n := by simp [hcs]
  refine ⟨_, _, by rw [encoded_eq_map, encode_digits, hcs, List.map_cons], ?_⟩
  rw [isDigitByte_iff (Decimal.toNat_lt_of_mem_digits hmem)]
  exact Decimal.isDigit_of_mem_digits hmem

/-- A written part is read up to its closing bracket. -/
theorem bracket?_written {part : Part} (h : part.IsWritten) (isLast : Bool) (rest : Bytes) :
    bracket? isLast (Utf8.encode part.inner ++ closeBracket :: rest) = some (part, rest) := by
  cases part with
  | name key =>
    obtain ⟨b, bs, hcons, hdigit⟩ := encoded_of_isName h
    have hbytes : ∀ x ∈ b :: bs, IsKeyByte x := by
      rw [← hcons]
      exact fun x => isKeyByte_of_mem_encoded
    rw [Part.inner, ← encoded, hcons, bracket?_append hbytes, if_neg hdigit, ← hcons, text?_encoded]
    rfl
  | position index =>
    obtain ⟨b, bs, hcons, hdigit⟩ := encoded_digits_eq_cons index
    have hbytes : ∀ x ∈ b :: bs, IsKeyByte x := by
      rw [← hcons]
      exact fun x => isKeyByte_of_mem_encoded
    have htext : text? (b :: bs) = some (String.ofList (Decimal.digits index)) := by
      rw [← hcons]
      simpa using text?_encoded (String.ofList (Decimal.digits index))
    have hindex : index? (String.ofList (Decimal.digits index)) = some index := by
      rw [index?, String.toList_ofList, Decimal.value?_digits, Option.bind_some,
        if_pos (show index < UInt64.size from h)]
    rw [Part.inner, ← encode_digits, ← encoded, hcons, bracket?_append hbytes, if_pos hdigit, htext,
      Option.bind_some, hindex]
    rfl
  | append => exact h.elim

theorem encode_bracketed (inner cs : List Char) :
    Utf8.encode (bracketed inner ++ cs) =
      openBracket :: (Utf8.encode inner ++ closeBracket :: Utf8.encode cs) := by
  have hopen : String.utf8EncodeChar '[' = [openBracket] := by decide
  have hclose : String.utf8EncodeChar ']' = [closeBracket] := by decide
  rw [bracketed, List.cons_append, Utf8.encode_cons, hopen, List.append_assoc, Utf8.encode_append,
    List.singleton_append, List.singleton_append, Utf8.encode_cons, hclose, List.singleton_append]

/-- The bytes after the name of a pair. -/
def tailBytes (leaf : List Part × String) : Bytes := Utf8.encode (leafText leaf)

theorem tailBytes_nil (text : String) : tailBytes ([], text) = equalsSign :: encoded text.toList := by
  have hequals : String.utf8EncodeChar '=' = [equalsSign] := by decide
  rw [tailBytes, leafText, List.flatMap_nil, List.nil_append, Utf8.encode_cons, hequals,
    List.singleton_append, encoded]

theorem tailBytes_cons (part : Part) (parts : List Part) (text : String) :
    tailBytes (part :: parts, text) =
      openBracket :: (Utf8.encode part.inner ++ closeBracket :: tailBytes (parts, text)) := by
  rw [tailBytes, leafText, List.flatMap_cons, List.append_assoc, encode_bracketed, tailBytes, leafText]

/-- Written parts are read up to the value behind them. -/
theorem parts?_tailBytes (isLast : Bool) {parts : List Part} (h : ∀ part ∈ parts, part.IsWritten)
    {levels : Nat} (hlevels : parts.length ≤ levels) (text : String) :
    parts? isLast levels (tailBytes (parts, text)) = some (parts, encoded text.toList) := by
  induction parts generalizing levels with
  | nil =>
    rw [tailBytes_nil, parts?.eq_def]
    exact if_pos rfl
  | cons part parts ih =>
    rw [List.length_cons] at hlevels
    obtain ⟨more, rfl⟩ : ∃ more, levels = more + 1 := ⟨levels - 1, by omega⟩
    have hpart : part.IsWritten := h part (by simp)
    have hne : ¬(part = .append ∧ parts ≠ []) := by
      rintro ⟨rfl, -⟩
      exact hpart
    have hrest := ih (fun p hp => h p (List.mem_cons_of_mem _ hp)) (Nat.le_of_succ_le_succ hlevels)
    rw [tailBytes_cons, parts?.eq_def]
    dsimp only
    rw [if_neg (by decide), if_pos rfl, bracket?_written hpart]
    dsimp only
    rw [hrest]
    exact if_neg hne

/-- The bytes after a name begin with a bracket or with the equals sign. -/
theorem tailBytes_eq_cons (leaf : List Part × String) :
    ∃ b bs, tailBytes leaf = b :: bs ∧ (b = openBracket ∨ b = equalsSign) := by
  obtain ⟨parts, text⟩ := leaf
  cases parts with
  | nil => exact ⟨_, _, tailBytes_nil text, .inr rfl⟩
  | cons part parts => exact ⟨_, _, tailBytes_cons part parts text, .inl rfl⟩

/-- A written pair is read as its parts and its text. -/
theorem pair?_written (isLast : Bool) {name : String} (hname : IsName name) {parts : List Part}
    (h : ∀ part ∈ parts, part.IsWritten) {levels : Nat} (hlevels : parts.length ≤ levels - 1)
    (text : String) :
    ∃ first rest, encoded name.toList ++ tailBytes (parts, text) = first :: rest ∧
      pair? isLast levels first rest = some (.name name :: parts, text) := by
  obtain ⟨b, bs, hcons, -⟩ := encoded_of_isName hname
  obtain ⟨t, ts, htail, ht⟩ := tailBytes_eq_cons (parts, text)
  have hbytes : ∀ x ∈ b :: bs, IsKeyByte x := by
    rw [← hcons]
    exact fun x => isKeyByte_of_mem_encoded
  have htake : (bs ++ tailBytes (parts, text)).takeWhile
      (fun b => decide (b ≠ openBracket ∧ b ≠ equalsSign)) = bs := by
    rw [List.takeWhile_append_of_pos, htail, List.takeWhile_cons_of_neg, List.append_nil]
    · rcases ht with rfl | rfl <;> decide
    · intro x hx
      have hx := hbytes x (List.mem_cons_of_mem _ hx)
      exact decide_eq_true ⟨hx.2.2.1, hx.2.2.2.2.1⟩
  refine ⟨b, bs ++ tailBytes (parts, text), by rw [hcons, List.cons_append], ?_⟩
  have hopen : b ≠ openBracket := (hbytes b (by simp)).2.2.1
  rw [pair?, if_neg hopen]
  simp only [htake, ← hcons, text?_encoded, List.drop_left, parts?_tailBytes isLast h hlevels,
    Option.bind_eq_bind, Option.bind_some]

/-! ## Documents -/

/-- The bytes of a leaf below the root. -/
def rootBytes (name : String) (leaf : List Part × String) : Bytes :=
  encoded name.toList ++ tailBytes leaf

/-- The written pairs of a list of fields at the root. -/
def rootPairs (es : List (String × Node)) : List Bytes :=
  es.flatMap fun (name, node) => node.leaves.map (rootBytes name)

/-- Written pairs put their texts at their places. -/
theorem addPairs?_map {name : String} (hname : IsName name) (more : List Bytes) :
    ∀ (leaves : List (List Part × String)) (levels : Nat) (root root' : Node), firstLevels ≤ levels →
      (∀ leaf ∈ leaves, LiesWithin (firstLevels - 1) leaf) →
      Node.addAll (leaves.map (below (.name name))) (some root) = some (some root') →
      ∃ levels' ≥ firstLevels, addPairs? levels root (leaves.map (rootBytes name) ++ more) =
        addPairs? levels' root' more
  | [], levels, root, root', hlevels, _, h => by
    cases h
    exact ⟨levels, hlevels, rfl⟩
  | (parts, text) :: leaves, levels, root, root', hlevels, hwithin, h => by
    obtain ⟨hlength, hparts⟩ := hwithin _ (List.mem_cons_self)
    rw [List.map_cons, below, Node.addAll] at h
    obtain ⟨next, hnext, hrest⟩ := Option.bind_eq_some_iff.1 h
    obtain ⟨levels', hlevels', hmore⟩ := addPairs?_map hname more leaves (levels + 1) next root'
      (by omega) (fun leaf hleaf => hwithin leaf (List.mem_cons_of_mem _ hleaf)) hrest
    refine ⟨levels', hlevels', ?_⟩
    obtain ⟨first, rest, hcons, hpair⟩ := pair?_written
      (leaves.map (rootBytes name) ++ more).isEmpty hname hparts
      (show parts.length ≤ levels - 1 by simp only at hlength; omega) text
    rw [List.map_cons, List.cons_append, rootBytes, hcons, addPairs?, hpair]
    dsimp only
    rw [hnext]
    exact hmore

theorem addPairs?_rootPairs : ∀ (es done : List (String × Node)) (levels : Nat),
    firstLevels ≤ levels → FieldsAreWritten (firstLevels - 1) es → ((done ++ es).map (·.1)).Nodup →
    addPairs? levels (.fields done) (rootPairs es) = some (.fields (done ++ es))
  | [], done, levels, _, _, _ => by
    rw [List.append_nil]
    rfl
  | (name, node) :: es, done, levels, hlevels, ⟨hname, hnode, hes⟩, hnodup => by
    have hentry := Node.lists_fields.addAll_entry (Node.notMem_keys_of_nodup hnodup)
      (Node.addAll_leaves node _ hnode)
    obtain ⟨levels', hlevels', hmore⟩ := addPairs?_map hname (rootPairs es) node.leaves levels _ _
      hlevels (forall_leaves node _ hnode) hentry
    have hrest := addPairs?_rootPairs es (done ++ [(name, node)]) levels' hlevels' hes
      (by simpa using hnodup)
    rw [rootPairs, List.flatMap_cons]
    rw [List.append_assoc] at hrest
    exact hmore.trans hrest

theorem encode_flatten_intersperse (xss : List (List Char)) :
    Utf8.encode (List.intersperse ['&'] xss).flatten =
      (List.intersperse [ampersand] (xss.map Utf8.encode)).flatten := by
  have hampersand : Utf8.encode ['&'] = [ampersand] := by decide
  induction xss with
  | nil => rfl
  | cons xs rest ih =>
    cases rest with
    | nil => simp
    | cons ys rest =>
      rw [List.intersperse_cons_cons, List.flatten_cons, List.flatten_cons, Utf8.encode_append,
        Utf8.encode_append, hampersand, ih]
      rfl

theorem render_fields (es : List (String × Node)) :
    render (.fields es) = (List.intersperse [ampersand] (rootPairs es)).flatten := by
  have hpairs : (es.flatMap fun (name, node) => node.pairs (Urlencoded.encode name.toList)).map
      Utf8.encode = rootPairs es := by
    rw [List.map_flatMap, rootPairs]
    refine List.flatMap_congr fun e _ => ?_
    obtain ⟨name, node⟩ := e
    dsimp only
    rw [pairs_eq_map, List.map_map]
    refine List.map_congr_left fun leaf _ => ?_
    simp [rootBytes, encoded, tailBytes]
  rw [render, encode_flatten_intersperse, hpairs]

theorem ne_ampersand_of_mem_tailBytes {parts : List Part} (h : ∀ part ∈ parts, part.IsWritten)
    {text : String} {b : UInt8} (hb : b ∈ tailBytes (parts, text)) : b ≠ ampersand := by
  induction parts with
  | nil =>
    rw [tailBytes_nil] at hb
    rcases List.mem_cons.1 hb with rfl | hb
    · decide
    · exact (isKeyByte_of_mem_encoded hb).2.2.2.2.2
  | cons part parts ih =>
    have hinner : ∀ x ∈ Utf8.encode part.inner, x ≠ ampersand := by
      intro x hx
      have hpart : part.IsWritten := h part (by simp)
      cases part with
      | name key => exact (isKeyByte_of_mem_encoded hx).2.2.2.2.2
      | position index =>
        rw [Part.inner, ← encode_digits] at hx
        exact (isKeyByte_of_mem_encoded hx).2.2.2.2.2
      | append => exact hpart.elim
    rw [tailBytes_cons] at hb
    rcases List.mem_cons.1 hb with rfl | hb
    · decide
    rcases List.mem_append.1 hb with hb | hb
    · exact hinner b hb
    rcases List.mem_cons.1 hb with rfl | hb
    · decide
    · exact ih (fun p hp => h p (List.mem_cons_of_mem _ hp)) hb

theorem ne_ampersand_of_mem_rootPairs {es : List (String × Node)}
    (h : FieldsAreWritten (firstLevels - 1) es) : ∀ pair ∈ rootPairs es, ∀ b ∈ pair, b ≠ ampersand := by
  induction es with
  | nil => exact nofun
  | cons e es ih =>
    obtain ⟨_, hnode, hes⟩ := h
    intro pair hpair b hb
    rw [rootPairs, List.flatMap_cons] at hpair
    rcases List.mem_append.1 hpair with hpair | hpair
    · obtain ⟨leaf, hleaf, rfl⟩ := List.mem_map.1 hpair
      rcases List.mem_append.1 hb with hb | hb
      · exact (isKeyByte_of_mem_encoded hb).2.2.2.2.2
      · exact ne_ampersand_of_mem_tailBytes (forall_leaves _ _ hnode leaf hleaf).2 hb
    · exact ih hes pair hpair b hb

/-- The document of written fields is read as those fields. -/
theorem parse?_render {es : List (String × Node)} (h : FieldsAreWritten (firstLevels - 1) es)
    (hnodup : (es.map (·.1)).Nodup) : parse? (render (.fields es)) = some (.fields es) := by
  rw [parse?, render_fields]
  rcases eq_or_ne (rootPairs es) [] with hnil | hne
  · have hadd := addPairs?_rootPairs es [] firstLevels le_rfl h hnodup
    rw [hnil] at hadd ⊢
    exact hadd
  · have hsep : ∀ pair ∈ rootPairs es, ∀ b ∈ pair, decide (b = ampersand) = false :=
      fun pair hpair b hb => decide_eq_false (ne_ampersand_of_mem_rootPairs h pair hpair b hb)
    rw [pieces_intersperse (by simp) hne hsep]
    exact addPairs?_rootPairs es [] firstLevels le_rfl h hnodup

end Signpost.Form
