import WorldForge.Error.Basic

/-!
# Flawed templates

What stands in a catalog need not be fit for a call: it may be no declaration, or one whose kind is
no kind. A call finds out when it asks for what is missing, before the ledger is changed, and its
error is none of a ledger's refusals.

* `deploymentFlaw?_of_kind`, `registrationFlaw?_of_kind` — a proper declaration has no flaw;
* `deploymentFlaw_cases`, `registrationFlaw_cases` — what flaws there are.
-/

namespace WorldForge.Catalog

/-- What is wrong with a template when its kind is asked whether it is deployed. -/
def deploymentFlaw? (c : Catalog) (given : Value) : Option Error :=
  match c.stray? given, c.get? given with
  | some v, _ => some (.lacking v "kind")
  | none, none => none
  | none, some d => if d.kind.kind?.isSome then none else some (.lacking d.kind "is_deployable")

/-- What is wrong with a template when it is to be registered: a kind that is not the expected one
is told of by its name, and the name of a part is looked up. -/
def registrationFlaw? (c : Catalog) (k : PartKind) (given : Value) : Option Error :=
  match c.stray? given, c.get? given with
  | some v, _ => some (.lacking v "kind")
  | none, none => none
  | none, some d =>
    if d.isOf k.toTemplateKind then
      match d.name.asKey with
      | .ok _ => none
      | .error refusal => some (.notKey refusal)
    else if d.kind.name?.isSome then none
    else some (.lacking d.kind "name")

variable {c : Catalog} {given : Value} {d : Declaration} {k : TemplateKind}
  {part : PartKind} {e : Error}

/-- A deployment shows no flaw if the template that is looked up is declared with a kind. A flaw
comes up only where something stands in the place of the kind. -/
theorem deploymentFlaw?_of_kind (hStray : c.stray? given = none) (hGet : c.get? given = some d)
    (hKind : d.kind = .kind k) : c.deploymentFlaw? given = none := by
  simp [deploymentFlaw?, hStray, hGet, hKind]

/-- A registration shows no flaw if the template is declared with a kind, and with a name by which a
part can be looked up. -/
theorem registrationFlaw?_of_kind {name : Key} (hStray : c.stray? given = none)
    (hGet : c.get? given = some d) (hKind : d.kind = .kind k) (hName : d.name.asKey = .ok name) :
    c.registrationFlaw? part given = none := by
  simp [registrationFlaw?, hStray, hGet, hKind, hName, Value.name?]

/-- What is wrong with a template that is to be deployed is that something is lacking. -/
theorem deploymentFlaw_cases (h : c.deploymentFlaw? given = some e) :
    ∃ v feature, e = .lacking v feature := by
  rw [deploymentFlaw?] at h
  split at h
  · cases h
    exact ⟨_, _, rfl⟩
  · cases h
  · split at h <;> cases h
    exact ⟨_, _, rfl⟩

/-- What is wrong with a template that is to be registered is that something is lacking, or that its
name is no key. -/
theorem registrationFlaw_cases (h : c.registrationFlaw? part given = some e) :
    (∃ v feature, e = .lacking v feature) ∨ ∃ refusal, e = .notKey refusal := by
  rw [registrationFlaw?] at h
  split at h
  · cases h
    exact .inl ⟨_, _, rfl⟩
  · cases h
  · split at h
    · split at h <;> cases h
      exact .inr ⟨_, rfl⟩
    · split at h <;> cases h
      exact .inl ⟨_, _, rfl⟩

end WorldForge.Catalog
