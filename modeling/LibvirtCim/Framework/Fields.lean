import Mathlib.Data.List.Basic

/-!
# Records compared on some of their fields

A request that is carried out on a record names some of its fields. `NamedField` is a field with
the answer to whether the request names it, and `AgreeOn` is the comparison of two records on
the fields that are named: what a two-run property asks of the outcomes of one request on two
records.
-/

namespace Framework

variable {α : Type}

/-- A field of a record, and whether it is named. -/
structure NamedField (α : Type) where
  given : Bool
  {Value : Type}
  get : α → Value

/-- The records agree on the fields that are named. -/
def AgreeOn (fields : List (NamedField α)) (a b : α) : Prop :=
  ∀ field ∈ fields, field.given = true → field.get a = field.get b

theorem AgreeOn.refl (fields : List (NamedField α)) (a : α) : AgreeOn fields a a :=
  fun _ _ _ => rfl

@[simp] theorem agreeOn_nil (a b : α) : AgreeOn [] a b := by
  intro field hmem
  exact absurd hmem List.not_mem_nil

@[simp] theorem agreeOn_cons (field : NamedField α) (fields : List (NamedField α)) (a b : α) :
    AgreeOn (field :: fields) a b ↔
      (field.given = true → field.get a = field.get b) ∧ AgreeOn fields a b := by
  exact List.forall_mem_cons

@[simp] theorem agreeOn_append (fields fields' : List (NamedField α)) (a b : α) :
    AgreeOn (fields ++ fields') a b ↔ AgreeOn fields a b ∧ AgreeOn fields' a b := by
  exact List.forall_mem_append

end Framework
