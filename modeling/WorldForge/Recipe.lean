import WorldForge.Value

/-!
# Recipes

A recipe says what new worlds are made with.
-/

namespace WorldForge

/-- The template that worlds are deployed from, and the executor that they run on. -/
@[ext] structure Recipe where
  template : TemplateId
  executor : InstanceHandle
  deriving DecidableEq

/-- A recipe as a value. -/
def Recipe.value (r : Recipe) : Value := .recipe r.template r.executor

end WorldForge
