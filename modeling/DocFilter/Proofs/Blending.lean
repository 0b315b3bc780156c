import DocFilter.Proofs.CompileGrouping
import DocFilter.Proofs.StoredShapes

set_option autoImplicit false

/-
When the filters on one name keep apart. What a query holds under a name is what one of them gives,
or a row of operators with one operand each, unless an equality with a mapping meets another
mapping, or one operator is given two mappings; those are merged into each other.
-/
namespace DocFilter

open Value (mergeEntries mergeAll settle trailingMappings Ordered)

namespace Fragments

end Fragments

namespace Resolver

/-- The filter under the key gives the name the shape. -/
def Gives (resolver : Resolver) (filters : FilterSet) (key name : String) (shape : Value) : Prop :=
  ∃ value, filters.get? key = some value ∧
    resolver.compileFilter key value = .ok [(name, shape)]

theorem ne_rawKey {filters : FilterSet} (noRaw : filters.get? rawKey = none) {key : String}
    {value : Value} (present : filters.get? key = some value) : key ≠ rawKey := by
  intro raw
  rw [raw, noRaw] at present
  cases present

theorem Gives.contributed {resolver : Resolver} {filters : FilterSet} {key name : String}
    {shape : Value} (given : resolver.Gives filters key name shape)
    (noRaw : filters.get? rawKey = none) :
    ∃ value, (key, value) ∈ filters.entries ∧
      resolver.contribution key value = .ok [(name, shape)] := by
  obtain ⟨value, present, compiled⟩ := given
  refine ⟨value, (filters.get?_eq_some_iff key value).mp present, ?_⟩
  exact (contribution_ok_iff resolver key value _).mpr
    (Or.inr ⟨ne_rawKey noRaw present, compiled⟩)

/-- Two filters give the name mappings, from the first of them on no filter gives it anything else,
and one of the two is an equality, or both give one operator a mapping. -/
def Meet (resolver : Resolver) (filters : FilterSet) (name : String) : Prop :=
  ∃ first second inner other, first ≠ second ∧
    resolver.Gives filters first name (.mapping inner) ∧
    resolver.Gives filters second name (.mapping other) ∧
    (∀ key shape, first ≤ key ∨ second ≤ key → resolver.Gives filters key name shape →
      shape.isMapping = true) ∧
    ((FilterKey.parse first).operator = .equals ∨
      ∃ symbol operand further, inner = [(symbol, .mapping operand)] ∧
        other = [(symbol, .mapping further)])

theorem Gives.shape_eq {resolver : Resolver} {filters : FilterSet} {key name : String}
    {shape : Value} (given : resolver.Gives filters key name shape) :
    ∃ value field, (key, value) ∈ filters.entries ∧
      (FilterKey.parse key).operator.shape
        ((FilterKey.parse key).operator.transform field value) = shape := by
  obtain ⟨value, present, compiled⟩ := given
  obtain ⟨segments, leaf, -, -, single⟩ := (compileFilter_ok_iff _ _ _ _).mp compiled
  simp only [List.cons.injEq, Prod.mk.injEq, and_true] at single
  exact ⟨value, leaf.field?, (filters.get?_eq_some_iff key value).mp present, single.2.symm⟩

theorem Gives.ordered {resolver : Resolver} {filters : FilterSet} {key name : String}
    {inner : List (String × Value)} (given : resolver.Gives filters key name (.mapping inner))
    (canonical : Value.CanonicalEntries filters.entries) :
    Ordered inner := by
  obtain ⟨value, field, member, shaped⟩ := given.shape_eq
  apply Operator.ordered_shape _ shaped
  intro entries transformed
  have valueCanonical := (Value.canonicalEntries_iff _).mp canonical _ member
  exact Operator.ordered_transform valueCanonical transformed

/-- Mappings that filters give the name, from each of which on no filter gives it anything else. -/
structure IsRun (resolver : Resolver) (filters : FilterSet) (name : String) (run : Fragments) :
    Prop where
  ascending : Entries.Ascending run
  given : ∀ key inner, (key, inner) ∈ run → resolver.Gives filters key name (.mapping inner)
  onward : ∀ key inner, (key, inner) ∈ run → ∀ later shape, key ≤ later →
    resolver.Gives filters later name shape → shape.isMapping = true

section

variable {resolver : Resolver} {filters : FilterSet} {name : String} {run : Fragments}

theorem IsRun.meet (isRun : resolver.IsRun filters name run)
    {first second : String × List (String × Value)} (differ : first.1 ≠ second.1)
    (inRun : first ∈ run) (inRunToo : second ∈ run)
    (related : (FilterKey.parse first.1).operator = .equals ∨
      ∃ symbol operand further, first.2 = [(symbol, .mapping operand)] ∧
        second.2 = [(symbol, .mapping further)]) : resolver.Meet filters name := by
  refine ⟨first.1, second.1, first.2, second.2, differ, isRun.given _ _ inRun,
    isRun.given _ _ inRunToo, ?_, related⟩
  intro key shape follows givenLater
  rcases follows with follows | follows
  · exact isRun.onward _ _ inRun key shape follows givenLater
  · exact isRun.onward _ _ inRunToo key shape follows givenLater

end

end Resolver

end DocFilter
