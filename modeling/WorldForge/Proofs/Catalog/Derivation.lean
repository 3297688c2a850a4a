import Mathlib.Data.List.Nodup
import WorldForge.Proofs.Catalog

/-!
# Ids that derive from kinds and names

A template that is declared without an id gets one from the digest of its kind and name, so the same
template has the same id in every catalog, whatever else has been declared there, and in which
order. This holds as long as no two of the digests collide. The text that goes into a digest tells
its kind and name: no label of a kind has a colon in it, so the first colon ends the label, even if
there are more of them in the name.

A digest is taken of bytes. A name in which a surrogate stands has none, so no id derives from it,
and its declaration is refused by every catalog.

Main results:

* `Title.ext_text` — the text of a title tells its kind and name;
* `declareEach_spec` — what a sequence of declarations answers, and what it leaves in a catalog;
* `ids_independent_of_history` — ids do not depend on what has been declared before, and a catalog
  does not depend on the order in which its templates were declared, or on how often.
-/

namespace WorldForge

/-! ## Titles -/

/-- A kind and a name: all that a template is declared with if it is given no id. -/
structure Title where
  kind : TemplateKind
  name : Text
  deriving DecidableEq

namespace Title

variable {s t : Title}

/-- The text that the id of a title derives from. -/
def text (t : Title) : Text := declarationText t.kind.label t.name

/-- The part of a digest that ids are made of, if the text has bytes. -/
def digest (t : Title) : Except Text.EncodingError Nat :=
  t.text.encode.map fun bytes => (Digest.sha256 bytes).leading64

/-- The id that derives from a title, if one does. -/
def id (t : Title) : Except Text.EncodingError TemplateId := derivedId t.kind.label t.name

/-- **Whether a title can be declared** without an id: it has a name, and no surrogate stands in it.
-/
def isDeclarable (t : Title) : Bool := t.name ≠ "" && t.name.isWhole

/-- What the declaration of a title answers, in whatever catalog. -/
def answer (t : Title) : Except CatalogError Value :=
  if t.name = "" then .error .emptyName
  else
    match t.id with
    | .error e => .error (.unencodable e)
    | .ok id => .ok (.template id)

/-- The number of a derived id is the digest of its title. An id is derived exactly if there is such
a digest. -/
theorem digest_of_id {id : TemplateId} (h : t.id = .ok id) :
    ∃ n, t.digest = .ok n ∧ id.number = n := by
  rw [Title.id, derivedId] at h
  rw [digest, text]
  cases hBytes : (declarationText t.kind.label t.name).encode with
  | error e =>
    rw [hBytes] at h
    cases h
  | ok bytes =>
    rw [hBytes] at h
    cases h
    exact ⟨_, rfl, rfl⟩

/-- A title can be declared exactly if it has a name and an id can be derived from it. -/
theorem isDeclarable_iff : t.isDeclarable = true ↔ t.name ≠ "" ∧ ∃ id, t.id = .ok id := by
  rw [Title.id, Catalog.exists_derivedId_iff, isDeclarable, Bool.and_eq_true, decide_eq_true_eq]

/-- A title is granted if it can be declared. -/
theorem exists_answer_iff :
    (∃ id, t.answer = .ok (.template id)) ↔ t.name ≠ "" ∧ t.name.isWhole = true := by
  rw [← decide_eq_true_eq (p := t.name ≠ ""), ← Bool.and_eq_true]
  rw [show (decide (t.name ≠ "") && t.name.isWhole) = t.isDeclarable from rfl, isDeclarable_iff,
    answer]
  by_cases hName : t.name = ""
  · simp [hName]
  · rw [if_neg hName]
    cases t.id <;> simp [hName]

/-- What is granted is the id of a title that can be declared. -/
theorem id_of_answer {id : TemplateId} (h : t.answer = .ok (.template id)) :
    t.isDeclarable = true ∧ t.id = .ok id := by
  rw [isDeclarable_iff]
  rw [answer] at h
  split at h
  · cases h
  · rename_i hName
    split at h
    · cases h
    · rename_i id' hId
      cases h
      exact ⟨⟨hName, id, hId⟩, hId⟩

/-- The label of the kind is what stands before the first colon. -/
theorem takeWhile_text (t : Title) :
    t.text.front.toList.takeWhile (· ≠ ':') = t.kind.label.toList := by
  obtain ⟨kind, name⟩ := t
  rw [text, declarationText, Text.append_whole, Text.front_append_whole]
  cases kind <;> simp [TemplateKind.label]

/-- Kinds are told apart by their labels, as no two kinds have the same one. -/
theorem eq_of_label {k k' : TemplateKind} (h : k.label = k'.label) : k = k' := by
  have hRead : ∀ k : TemplateKind, TemplateKind.ofLabel? k.label = some k := by
    intro k
    cases k <;> decide
  have hSame := hRead k
  rw [h, hRead k'] at hSame
  exact (Option.some.inj hSame).symm

/-- **The text of a title tells its kind and name**, also if there are colons in the name. -/
theorem ext_text (h : s.text = t.text) : s = t := by
  have hLabel : s.kind.label.toList = t.kind.label.toList := by
    rw [← takeWhile_text s, h, takeWhile_text t]
  obtain ⟨kind, name⟩ := s
  obtain ⟨kind', name'⟩ := t
  obtain rfl : kind = kind' := eq_of_label (String.toList_inj.1 hLabel)
  obtain rfl : name = name' := Text.append_whole_inj (s := kind.label ++ ":") h
  rfl

/-- The titles in a list that can be declared. Only these are digested. -/
def declarable (ts : List Title) : List Title := ts.filter isDeclarable

/-- Of some titles the declarable ones are picked, and none is added. -/
theorem mem_declarable {ts : List Title} : t ∈ declarable ts ↔ t ∈ ts ∧ t.isDeclarable = true :=
  List.mem_filter

/-- The first of some titles counts among the declarable ones only if it is one itself, and the
others as before. -/
theorem mem_declarable_cons {ts : List Title} :
    s ∈ declarable (t :: ts) ↔ s = t ∧ t.isDeclarable = true ∨ s ∈ declarable ts := by
  rw [mem_declarable, mem_declarable, List.mem_cons]
  constructor
  · rintro ⟨rfl | hMem, hName⟩
    · exact .inl ⟨rfl, hName⟩
    · exact .inr ⟨hMem, hName⟩
  · rintro (⟨rfl, hName⟩ | ⟨hMem, hName⟩)
    · exact ⟨.inl rfl, hName⟩
    · exact ⟨.inr hMem, hName⟩

/-- **No two digests collide** on the texts of some titles. -/
def Apart (ts : List Title) : Prop :=
  ∀ s ∈ ts, ∀ t ∈ ts, s.digest = t.digest → s.text = t.text

instance (ts : List Title) : Decidable (Apart ts) :=
  inferInstanceAs (Decidable (∀ s ∈ ts, ∀ t ∈ ts, s.digest = t.digest → s.text = t.text))

/-- Titles whose ids do not collide do so even less if there are fewer of them. -/
theorem Apart.mono {ss ts : List Title} (h : Apart ts) (hSub : ∀ t ∈ ss, t ∈ ts) : Apart ss :=
  fun s hs t ht => h s (hSub s hs) t (hSub t ht)

/-- Titles without a collision have ids of their own. -/
theorem Apart.eq {ts : List Title} {a b : TemplateId} (h : Apart ts) (hs : s ∈ ts) (ht : t ∈ ts)
    (ha : s.id = .ok a) (hb : t.id = .ok b) (hId : a.number = b.number) : s = t := by
  obtain ⟨m, hm, hma⟩ := digest_of_id ha
  obtain ⟨n, hn, hnb⟩ := digest_of_id hb
  have hSame : m = n := Int.ofNat.inj (hma.symm.trans (hId.trans hnb))
  exact ext_text (h s hs t ht (by rw [hm, hn, hSame]))

end Title

/-- A title with the id that derives from it. -/
structure Derived where
  title : Title
  id : TemplateId
  derives : title.id = .ok id

namespace Derived

variable {d e : Derived}

/-- The template of a title, under the id that derives from it. -/
def declaration (d : Derived) : Declaration :=
  ⟨.template d.id, .str d.title.name, .kind d.title.kind⟩

/-- The title tells the id. -/
theorem ext_title (h : d.title = e.title) : d = e := by
  obtain ⟨s, a, ha⟩ := d
  obtain ⟨t, b, hb⟩ := e
  obtain rfl : s = t := h
  obtain rfl : a = b := Except.ok.inj (ha.symm.trans hb)
  rfl

end Derived

namespace Catalog

variable {c : Catalog} {s t : Title} {ds es : List Title} {ts us : List Derived} {u : Derived}

/-! ## Declaring one after the other -/

/-- Declares a title. A refusal leaves the catalog as it is. -/
def declareTitle (c : Catalog) (t : Title) : Except CatalogError Value × Catalog :=
  match c.declare (.kind t.kind) (.str t.name) none with
  | .ok (id, c') => (.ok id, c')
  | .error e => (.error e, c)

/-- Declares titles one after the other, whatever becomes of each. -/
def declareEach (c : Catalog) : List Title → List (Except CatalogError Value) × Catalog
  | [] => ([], c)
  | t :: rest =>
    let (answer, c') := c.declareTitle t
    let (answers, last) := c'.declareEach rest
    (answer :: answers, last)

/-- **A catalog holds titles**, and nothing else, each of them under the id that derives from it. -/
def Holds (c : Catalog) (ts : List Derived) : Prop := c.Lists (ts.map Derived.declaration)

namespace Holds

/-- A catalog that holds some derived titles finds exactly their declarations, each by its own
derived id. -/
theorem get?_iff (h : c.Holds ts) {v : Value} {d : Declaration} :
    c.get? v = some d ↔ ∃ u ∈ ts, u.declaration = d ∧ u.id.key = v.key := by
  rw [Lists.get?_iff h, List.mem_map]
  constructor
  · rintro ⟨⟨u, hMem, rfl⟩, hKey⟩
    exact ⟨u, hMem, rfl, hKey⟩
  · rintro ⟨u, hMem, rfl, hKey⟩
    exact ⟨⟨u, hMem, rfl⟩, hKey⟩

/-- What is found by a kind and name is the id of their title. -/
theorem idOf?_iff (h : c.Holds ts) {v : Value} :
    c.idOf? (.kind t.kind) (.str t.name) = some v ↔ ∃ u ∈ ts, u.title = t ∧ v = .template u.id := by
  rw [Lists.idOf?_iff h]
  constructor
  · rintro ⟨d, hMem, rfl, hKind, hName⟩
    obtain ⟨u, hu, rfl⟩ := List.mem_map.1 hMem
    refine ⟨u, hu, ?_, rfl⟩
    obtain ⟨⟨kind, name⟩, id, hId⟩ := u
    obtain ⟨kind', name'⟩ := t
    simpa [Derived.declaration] using And.intro hKind hName
  · rintro ⟨u, hMem, rfl, rfl⟩
    exact ⟨u.declaration, List.mem_map_of_mem hMem, rfl, rfl, rfl⟩

/-- No title is held twice. -/
theorem nodup (h : c.Holds ts) : (ts.map Derived.title).Nodup := by
  have hNames := Lists.nodup_names h
  rw [List.map_map, show (fun d : Declaration => (d.kind.key, d.name.key)) ∘ Derived.declaration =
    (fun t : Title => (Key.kind t.kind, Key.text t.name)) ∘ Derived.title from rfl,
    ← List.map_map] at hNames
  exact hNames.of_map

/-- A catalog that holds some derived titles has as many entries as there are titles. -/
theorem size_eq (h : c.Holds ts) : c.size = ts.length := by
  rw [← Lists.length_eq h, List.length_map]

end Holds

/-- The empty catalog holds no titles, which is where every history begins. -/
theorem holds_empty : Catalog.empty.Holds [] := ⟨rfl, rfl, fun d hMem => by cases hMem⟩

/-- A title that cannot be declared is refused by every catalog that does not hold it. -/
theorem declareTitle_of_not_declarable (h : c.Holds ts) (ht : t.isDeclarable = false) :
    c.declareTitle t = (t.answer, c) := by
  by_cases hName : t.name = ""
  · have hRefused : c.declare (.kind t.kind) (.str t.name) none = .error .emptyName := by
      rw [hName, declare_of_nameless]
    rw [declareTitle, hRefused, Title.answer, if_pos hName]
  · rw [declareTitle, show c.declare (.kind t.kind) (.str t.name) none =
      c.declare (.kind t.kind) (.str t.name) ((none : Option TemplateId).map .template) from rfl,
      declare_of_named hName, Title.answer, if_neg hName]
    -- no id derives from the title, so it is none of those that are held
    cases hId : t.id with
    | ok id =>
      rw [← Bool.not_eq_true, Title.isDeclarable_iff] at ht
      exact absurd ⟨hName, id, hId⟩ ht
    | error e =>
      have hNew : c.idOf? (.kind t.kind) (.str t.name) = none := by
        rw [Option.eq_none_iff_forall_ne_some]
        intro v hv
        obtain ⟨u, -, rfl, -⟩ := h.idOf?_iff.1 hv
        cases u.derives.symm.trans hId
      rw [hNew, show wantedId t.kind t.name none = .error e from hId]

/-- **One declaration** answers what its title says, and the title is held afterwards, if it can be
declared. -/
theorem declareTitle_spec (h : c.Holds ts)
    (hApart : t.isDeclarable = true → ∀ u ∈ ts, ∀ id, t.id = .ok id → u.id.number = id.number →
      u.title = t) :
    (c.declareTitle t).1 = t.answer ∧
    ∃ us, (c.declareTitle t).2.Holds us ∧
      ∀ s, s ∈ us.map Derived.title ↔ s ∈ ts.map Derived.title ∨ s = t ∧ t.isDeclarable = true := by
  cases hFit : t.isDeclarable with
  | false =>
    rw [declareTitle_of_not_declarable h hFit]
    exact ⟨rfl, ts, h, fun s => by simp⟩
  | true =>
    obtain ⟨hName, id, hId⟩ := Title.isDeclarable_iff.1 hFit
    have hAnswer : t.answer = .ok (.template id) := by rw [Title.answer, if_neg hName, hId]
    rw [hAnswer]
    by_cases hMem : t ∈ ts.map Derived.title
    -- the title is held already: its id is found, and nothing changes
    · obtain ⟨u, hu, hTitle⟩ := List.mem_map.1 hMem
      have hSame : u.id = id := by
        have hDerives := u.derives
        rw [hTitle] at hDerives
        exact Except.ok.inj (hDerives.symm.trans hId)
      have hFound : c.declare (.kind t.kind) (.str t.name)
          ((none : Option TemplateId).map .template) = .ok (.template id, c) :=
        declare_template_eq_ok_iff.2 ⟨hName, .inl
          ⟨h.idOf?_iff.2 ⟨u, hu, hTitle, by rw [hSame]⟩, fun s hs => by simp at hs, rfl⟩⟩
      rw [declareTitle, show c.declare (.kind t.kind) (.str t.name) none = _ from hFound]
      refine ⟨rfl, ts, h, fun s => ⟨.inl, ?_⟩⟩
      rintro (hs | ⟨rfl, -⟩)
      · exact hs
      · exact hMem
    -- the title is new, and so is its id, since no other title has the same
    · have hNew : c.idOf? (.kind t.kind) (.str t.name) = none := by
        rw [Option.eq_none_iff_forall_ne_some]
        intro v hv
        obtain ⟨u, hu, rfl, -⟩ := h.idOf?_iff.1 hv
        exact hMem (List.mem_map_of_mem hu)
      have hFree : c.get? (.template id) = none := by
        rw [Option.eq_none_iff_forall_ne_some]
        intro d hd
        obtain ⟨u, hu, -, hKey⟩ := h.get?_iff.1 hd
        have hSame := hApart hFit u hu id hId (Value.key_template_eq_iff.1 hKey)
        exact hMem (hSame ▸ List.mem_map_of_mem hu)
      have hEntered : c.declare (.kind t.kind) (.str t.name)
          ((none : Option TemplateId).map .template) =
          .ok (.template id, c.enter (Derived.mk t id hId).declaration) :=
        declare_template_eq_ok_iff.2 ⟨hName, .inr ⟨hNew, ⟨id, hId, rfl⟩, hFree, rfl⟩⟩
      rw [declareTitle, show c.declare (.kind t.kind) (.str t.name) none = _ from hEntered]
      refine ⟨rfl, ts ++ [⟨t, id, hId⟩], ?_, fun s => by simp⟩
      have hNamed : (Value.str t.name).isNothing = false := by
        rw [← Bool.not_eq_true, isNothing_str]
        exact hName
      have hLast := Lists.enter h hFree hNew hNamed
      rwa [Holds, List.map_append]

/-- **A sequence of declarations** answers what the titles say, and the catalog then holds those of
them that can be declared, too. -/
theorem declareEach_spec (h : c.Holds ts)
    (hApart : Title.Apart (ts.map Derived.title ++ Title.declarable ds)) :
    (c.declareEach ds).1 = ds.map Title.answer ∧
    ∃ us, (c.declareEach ds).2.Holds us ∧
      ∀ s, s ∈ us.map Derived.title ↔ s ∈ ts.map Derived.title ∨ s ∈ Title.declarable ds := by
  induction ds generalizing c ts with
  | nil => exact ⟨rfl, ts, h, fun s => by simp [Title.declarable]⟩
  | cons t rest ih =>
    obtain ⟨hAnswer, us, hHolds, hMem⟩ := declareTitle_spec (t := t) h fun hFit u hu id hId hSame =>
      hApart.eq (List.mem_append_left _ (List.mem_map_of_mem hu))
        (List.mem_append_right _ (Title.mem_declarable_cons.2 (.inl ⟨rfl, hFit⟩)))
        u.derives hId hSame
    -- what is held after the first declaration is among the titles that do not collide
    have hRest : Title.Apart (us.map Derived.title ++ Title.declarable rest) := by
      refine hApart.mono fun s hs => ?_
      rw [List.mem_append, hMem, or_assoc] at hs
      rwa [List.mem_append, Title.mem_declarable_cons]
    obtain ⟨hAnswers, ws, hLast, hMemLast⟩ := ih hHolds hRest
    refine ⟨?_, ws, hLast, fun s => ?_⟩
    · rw [declareEach, List.map_cons, ← hAnswer, ← hAnswers]
    · rw [hMemLast, hMem, Title.mem_declarable_cons, or_assoc]

/-! ## What catalogs answer -/

/-- **Catalogs answer alike** when they are asked about templates. -/
structure Alike (a b : Catalog) : Prop where
  get : ∀ v, a.get? v = b.get? v
  isDeclared : ∀ v, a.isDeclared v = b.isDeclared v
  size : a.size = b.size

/-- What a catalog answers depends on which titles it holds, and not on their order. -/
theorem Holds.alike {a b : Catalog} (ha : a.Holds ts) (hb : b.Holds us)
    (hSame : ∀ t, t ∈ ts.map Derived.title ↔ t ∈ us.map Derived.title) : a.Alike b := by
  have hMem : ∀ u, u ∈ ts ↔ u ∈ us := by
    -- a title tells its id, so where the title is held, it is held with this one
    have hTold : ∀ (ws : List Derived) u, u ∈ ws ↔ u.title ∈ ws.map Derived.title := by
      intro ws u
      refine ⟨List.mem_map_of_mem, fun h => ?_⟩
      obtain ⟨w, hw, hTitle⟩ := List.mem_map.1 h
      rwa [← Derived.ext_title hTitle]
    intro u
    rw [hTold ts, hTold us, hSame]
  have hGet : ∀ v, a.get? v = b.get? v := by
    intro v
    ext d
    rw [ha.get?_iff, hb.get?_iff]
    simp only [hMem]
  refine ⟨hGet, fun v => ?_, ?_⟩
  · rw [Catalog.isDeclared, Catalog.isDeclared, hGet]
  · have hLength := ((List.perm_ext_iff_of_nodup ha.nodup hb.nodup).2 hSame).length_eq
    rwa [List.length_map, List.length_map, ← ha.size_eq, ← hb.size_eq] at hLength

/-- **Derived ids do not depend on history.** The text that is digested tells kind and name. A title
can be declared if it has a name and no surrogate stands in it. As long as no two digests of such
titles collide, each of them is granted, has the same id in all catalogs, and no two have the same
one; and catalogs for which the same of them have been declared, in any order and any number of
times, answer alike. -/
theorem ids_independent_of_history :
    (∀ s t : Title, s.text = t.text → s = t) ∧
    (∀ t : Title, (∃ id, t.answer = .ok (.template id)) ↔ t.name ≠ "" ∧ t.name.isWhole = true) ∧
    ∀ ds es : List Title, Title.Apart (Title.declarable (ds ++ es)) →
      (Catalog.empty.declareEach ds).1 = ds.map Title.answer ∧
      (Catalog.empty.declareEach es).1 = es.map Title.answer ∧
      (∀ s ∈ ds ++ es, ∀ t ∈ ds ++ es, ∀ a b, s.answer = .ok (.template a) →
        t.answer = .ok (.template b) → s ≠ t → a.number ≠ b.number) ∧
      ((∀ t, t ∈ Title.declarable ds ↔ t ∈ Title.declarable es) →
        (Catalog.empty.declareEach ds).2.Alike (Catalog.empty.declareEach es).2) := by
  refine ⟨fun s t => Title.ext_text, fun t => Title.exists_answer_iff, fun ds es hApart => ?_⟩
  -- each run starts from the empty catalog and meets only titles of both runs, so that none is in
  -- its way
  have hLeft : Title.Apart (([] : List Derived).map Derived.title ++ Title.declarable ds) :=
    hApart.mono fun s hs => by
      rw [List.map_nil, List.nil_append, Title.mem_declarable] at hs
      exact Title.mem_declarable.2 ⟨List.mem_append_left _ hs.1, hs.2⟩
  have hRight : Title.Apart (([] : List Derived).map Derived.title ++ Title.declarable es) :=
    hApart.mono fun s hs => by
      rw [List.map_nil, List.nil_append, Title.mem_declarable] at hs
      exact Title.mem_declarable.2 ⟨List.mem_append_right _ hs.1, hs.2⟩
  obtain ⟨hAnswers, ts, hHolds, hMem⟩ := declareEach_spec holds_empty hLeft
  obtain ⟨hAnswers', us, hHolds', hMem'⟩ := declareEach_spec holds_empty hRight
  refine ⟨hAnswers, hAnswers', fun s hs t ht a b ha hb hNe hId => hNe ?_,
    fun hSame => hHolds.alike hHolds' fun t => ?_⟩
  -- two titles with the same id would not be apart
  · obtain ⟨hsFit, hsId⟩ := Title.id_of_answer ha
    obtain ⟨htFit, htId⟩ := Title.id_of_answer hb
    exact hApart.eq (Title.mem_declarable.2 ⟨hs, hsFit⟩) (Title.mem_declarable.2 ⟨ht, htFit⟩)
      hsId htId hId
  -- what a catalog holds in the end is told by its titles, whatever their order was
  · rw [hMem, hMem', hSame]

/-- A system and a component with a colon in its name, declared in either order, and one of them
twice, with a nameless executor in between. -/
theorem ids_independent_of_history_colon :
    let tag : Title := ⟨.component, "SYSTEM:Physics"⟩
    let physics : Title := ⟨.system, "Physics"⟩
    let a := Catalog.empty.declareEach [tag, physics, ⟨.executor, ""⟩, tag]
    let b := Catalog.empty.declareEach [physics, tag]
    a.1 = [tag.answer, physics.answer, .error .emptyName, tag.answer] ∧
    b.1 = [physics.answer, tag.answer] ∧
    (∃ m n, tag.answer = .ok (.template m) ∧ physics.answer = .ok (.template n) ∧
      m.number ≠ n.number) ∧ a.2.Alike b.2 := by
  intro tag physics a b
  -- that no two of the three ids agree is computed, by the digest itself
  have hApart : Title.Apart
      (Title.declarable ([tag, physics, ⟨.executor, ""⟩, tag] ++ [physics, tag])) := by
    decide +kernel
  obtain ⟨-, hGranted, hDeclared⟩ := ids_independent_of_history
  obtain ⟨ha, hb, hDistinct, hAlike⟩ := hDeclared _ _ hApart
  obtain ⟨m, hTag⟩ := (hGranted tag).2 ⟨by decide, rfl⟩
  obtain ⟨n, hPhysics⟩ := (hGranted physics).2 ⟨by decide, rfl⟩
  refine ⟨ha, hb, ⟨m, n, hTag, hPhysics, hDistinct tag (by decide) physics (by decide) m n hTag
    hPhysics (by decide)⟩, hAlike fun t => ?_⟩
  rw [show Title.declarable [tag, physics, ⟨.executor, ""⟩, tag] = [tag, physics, tag] from rfl,
    show Title.declarable [physics, tag] = [physics, tag] from rfl]
  simp only [List.mem_cons, List.not_mem_nil, or_false]
  tauto

/-- **A name is not enough to be declared without an id.** The name that is one surrogate is not
empty, and its digest collides with no other; but it has no bytes, so it is refused, and not for
being empty. -/
theorem surrogate_not_granted :
    let high : Title := ⟨.component, .torn "" ⟨0⟩ ""⟩
    high.name ≠ "" ∧ Title.Apart [high] ∧
    (Catalog.empty.declareEach [high]).1 = [.error (.unencodable ⟨10, ⟨0⟩, 1⟩)] ∧
    ¬∃ id, high.answer = .ok (.template id) := by
  intro high
  have hName : high.name ≠ "" := Text.noConfusion
  have hId : high.id = .error ⟨10, ⟨0⟩, 1⟩ :=
    show derivedId (.whole "COMPONENT") (.torn "" ⟨0⟩ "") = _ by
      rw [derivedId, declarationText, Text.append_whole]
      rfl
  have hAnswer : high.answer = .error (.unencodable ⟨10, ⟨0⟩, 1⟩) := by
    rw [Title.answer, if_neg hName, hId]
  -- the id cannot be derived, so the catalog stays as it is
  have hRefused : Catalog.empty.declareTitle high = (high.answer, .empty) :=
    declareTitle_of_not_declarable holds_empty rfl
  refine ⟨hName, ?_, ?_, ?_⟩
  · intro s hs t ht _
    rw [List.mem_singleton.1 hs, List.mem_singleton.1 ht]
  · rw [declareEach, hRefused, hAnswer]
    rfl
  · rw [hAnswer]
    rintro ⟨id, hGranted⟩
    cases hGranted

end Catalog

end WorldForge
