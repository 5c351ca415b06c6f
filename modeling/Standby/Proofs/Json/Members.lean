import Standby.Json

/-!
# Members by name

What is found among members under a name, and that members sorted by name hold each name once.
Setting a member changes what is found under its own name and nothing else.
-/

namespace Standby

/-- The names of an object, in order. -/
def Members.names (members : Members) : List String := members.toList.map (·.1)

/-- The value of the first member of a name. -/
def Members.get? (members : Members) (name : String) : Option Json := members.toList.lookup name

/-- Something is found under a name exactly when it is the name of a member. -/
theorem Members.isSome_get?_iff {members : Members} {name : String} :
    (members.get? name).isSome = true ↔ name ∈ members.names := by
  rw [get?, names, Option.isSome_iff_ne_none, Ne, List.lookup_eq_none_iff, List.mem_map]
  constructor
  · intro other
    refine Classical.byContradiction fun absent => other fun member held => ?_
    exact bne_iff_ne.mpr fun same => absent ⟨member, held, same.symm⟩
  · rintro ⟨member, held, rfl⟩ other
    simpa using other member held

namespace SortedMembers

/-- Every name is below all names behind it. -/
def Ascending (members : SortedMembers) : Prop :=
  members.Pairwise fun earlier later => earlier.1 < later.1

variable {members : SortedMembers} {name : String}

/-- Members in ascending order hold no name twice. -/
theorem Ascending.nodup (ascending : Ascending members) : (members.map (·.1)).Nodup := by
  refine List.pairwise_map.mpr (ascending.imp ?_)
  intro earlier later below same
  exact String.lt_irrefl _ (same ▸ below)

/-- The first member is found under its name, and the others behind it. -/
theorem lookup_member (sought name : String) (value : Json) (rest : SortedMembers) :
    List.lookup sought ((name, value) :: rest) =
      if sought = name then some value else rest.lookup sought := by
  by_cases same : sought = name
  · simp [same]
  · have different : (sought == name) = false := by simpa using same
    simp [List.lookup_cons, same, different]

/-- Under the name that was set its value is found, and under the others what was there. -/
theorem lookup_put (members : SortedMembers) (name : String) (value : Json) (sought : String) :
    (put name value members).lookup sought =
      if sought = name then some value else members.lookup sought := by
  induction members with
  | nil => exact lookup_member sought name value []
  | cons first rest inductionHypothesis =>
    obtain ⟨other, held⟩ := first
    rw [put]
    split
    · exact lookup_member sought name value _
    split
    · rename_i _ same
      subst same
      simp only [lookup_member]
      split <;> rfl
    · rename_i _ different
      simp only [lookup_member, inductionHypothesis]
      by_cases same : sought = name
      · simp [same, different]
      · simp [same]

/-- Only the name that is set may be new. -/
theorem mem_put {value : Json} {member : String × Json} (held : member ∈ put name value members) :
    member = (name, value) ∨ member ∈ members := by
  induction members with
  | nil => exact .inl (List.mem_singleton.mp held)
  | cons first rest inductionHypothesis =>
    obtain ⟨other, value⟩ := first
    rw [put] at held
    split at held
    · exact List.mem_cons.mp held
    split at held
    · exact (List.mem_cons.mp held).imp_right (List.mem_cons_of_mem _)
    · rcases List.mem_cons.mp held with rfl | later
      · exact .inr List.mem_cons_self
      · exact (inductionHypothesis later).imp_right (List.mem_cons_of_mem _)

/-- Setting a member keeps the order. -/
theorem Ascending.put (ascending : Ascending members) (name : String) (value : Json) :
    Ascending (put name value members) := by
  induction ascending with
  | nil => exact List.pairwise_singleton _ _
  | @cons first rest below sorted inductionHypothesis =>
    obtain ⟨other, held⟩ := first
    rw [SortedMembers.put]
    split
    · rename_i before
      refine List.pairwise_cons.mpr ⟨?_, List.pairwise_cons.mpr ⟨below, sorted⟩⟩
      intro later member
      rcases List.mem_cons.mp member with rfl | behind
      · exact before
      · exact String.lt_trans before (below later behind)
    split
    · rename_i _ same
      subst same
      exact List.pairwise_cons.mpr ⟨below, sorted⟩
    · rename_i notBefore different
      have after : other < name := Classical.byContradiction fun notAfter =>
        different (String.le_antisymm (String.not_lt.mp notAfter) (String.not_lt.mp notBefore))
      refine List.pairwise_cons.mpr ⟨?_, inductionHypothesis⟩
      intro later member
      rcases mem_put member with rfl | behind
      · exact after
      · exact below later behind

end SortedMembers

end Standby
