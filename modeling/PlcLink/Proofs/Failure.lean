import Mathlib

/-!
# Computations that may fail

What a result, or an error, of a computation in steps tells about its steps.
-/

namespace PlcLink

variable {fault value result : Type}

theorem exists_of_bind_eq_ok
    {outcome : Except fault value} {next : value -> Except fault result}
    {answer : result}
    (bound : outcome.bind next = .ok answer) :
    ∃ before, outcome = .ok before ∧ next before = .ok answer := by
  cases outcome with
  | error error => cases bound
  | ok before => exact ⟨before, rfl, bound⟩

theorem bind_eq_of_eq_ok
    {outcome : Except fault value} {next : value -> Except fault result}
    {before : value} (succeeded : outcome = .ok before) :
    outcome.bind next = next before := by
  rw [succeeded]
  rfl

/-- What cannot fail behind a computation does not make it fail. -/
theorem eq_error_of_bind_ok
    {outcome : Except fault value} {next : value -> result} {error : fault}
    (failed : (outcome.bind fun before => Except.ok (next before))
      = .error error) :
    outcome = .error error := by
  cases outcome with
  | error other => exact congrArg Except.error (Except.error.inj failed)
  | ok before => cases failed

theorem eq_error_of_map_eq_error
    {f : value -> result} {outcome : Except fault value} {error : fault}
    (mapped : outcome.map f = .error error) :
    outcome = .error error := by
  cases outcome with
  | error other => exact congrArg Except.error (Except.error.inj mapped)
  | ok answer => cases mapped

theorem exists_of_map_eq_ok
    {f : value -> result} {outcome : Except fault value} {answer : result}
    (mapped : outcome.map f = .ok answer) :
    ∃ before, outcome = .ok before ∧ f before = answer := by
  cases outcome with
  | error error => cases mapped
  | ok before => exact ⟨before, rfl, Except.ok.inj mapped⟩

theorem eq_ok_of_toOption_eq_some
    {outcome : Except fault value} {answer : value}
    (succeeded : outcome.toOption = some answer) : outcome = .ok answer := by
  cases outcome with
  | error error => cases succeeded
  | ok other => exact congrArg Except.ok (Option.some.inj succeeded)

/-- A traversal that succeeds succeeds at every member. -/
theorem forall₂_of_mapM_eq_ok
    {f : value -> Except fault result}
    {values : List value} {results : List result}
    (mapped : values.mapM f = .ok results) :
    List.Forall₂ (fun value result => f value = .ok result)
      values results := by
  induction values generalizing results with
  | nil =>
      cases Except.ok.inj mapped
      exact .nil
  | cons value values inductionHypothesis =>
      rw [List.mapM_cons] at mapped
      obtain ⟨result, first, mapped⟩ := exists_of_bind_eq_ok mapped
      obtain ⟨others, rest, mapped⟩ := exists_of_bind_eq_ok mapped
      cases Except.ok.inj mapped
      exact .cons first (inductionHypothesis rest)

theorem mapM_eq_ok_of_forall₂
    {f : value -> Except fault result}
    {values : List value} {results : List result}
    (succeeds : List.Forall₂ (fun value result => f value = .ok result)
      values results) :
    values.mapM f = .ok results := by
  induction succeeds with
  | nil => rfl
  | cons first _ inductionHypothesis =>
      rw [List.mapM_cons, first, inductionHypothesis]
      rfl

theorem exists_mapM_eq_ok
    {f : value -> Except fault result} {values : List value}
    (succeeds : ∀ value ∈ values, ∃ result, f value = .ok result) :
    ∃ results, values.mapM f = .ok results := by
  induction values with
  | nil => exact ⟨[], rfl⟩
  | cons value values inductionHypothesis =>
      obtain ⟨⟨result, first⟩, rest⟩ := List.forall_mem_cons.1 succeeds
      obtain ⟨results, mapped⟩ := inductionHypothesis rest
      refine ⟨result :: results, ?_⟩
      rw [List.mapM_cons, first, mapped]
      rfl

theorem mapM_congr_left
    {first second : value -> Except fault result} {values : List value}
    (agree : ∀ value ∈ values, first value = second value) :
    values.mapM first = values.mapM second := by
  induction values with
  | nil => rfl
  | cons value values inductionHypothesis =>
      obtain ⟨same, agree⟩ := List.forall_mem_cons.1 agree
      rw [List.mapM_cons, List.mapM_cons, same, inductionHypothesis agree]

/-- A traversal that fails at some members, always in one way, fails in that way
if there is such a member. -/
theorem mapM_ite {passes : value -> Prop} [DecidablePred passes]
    (f : value -> result) (failure : fault) (values : List value) :
    (values.mapM fun value =>
        if passes value then Except.ok (f value) else Except.error failure)
      = if ∀ value ∈ values, passes value then Except.ok (values.map f)
        else Except.error failure := by
  induction values with
  | nil => rfl
  | cons value values inductionHypothesis =>
      rw [List.mapM_cons, inductionHypothesis]
      by_cases first : passes value
      · by_cases others : ∀ value ∈ values, passes value
        · rw [if_pos first, if_pos others,
            if_pos (List.forall_mem_cons.2 ⟨first, others⟩)]
          rfl
        · rw [if_pos first, if_neg others,
            if_neg fun all => others (List.forall_mem_cons.1 all).2]
          rfl
      · rw [if_neg first,
          if_neg fun all => first (List.forall_mem_cons.1 all).1]
        rfl

/-- Every member of a list has its partner in the same place. -/
theorem exists_getElem?_of_forall₂
    {related : value -> result -> Prop}
    {values : List value} {results : List result}
    (pairs : List.Forall₂ related values results)
    {place : Nat} {value : value} (isHere : values[place]? = some value) :
    ∃ result, results[place]? = some result ∧ related value result := by
  induction pairs generalizing place with
  | nil => cases isHere
  | cons first _ inductionHypothesis =>
      cases place with
      | zero =>
          cases isHere
          exact ⟨_, rfl, first⟩
      | succ place => exact inductionHypothesis isHere

/-- A traversal that fails fails at one of its members. -/
theorem exists_of_mapM_eq_error
    {f : value -> Except fault result} {values : List value} {error : fault}
    (failed : values.mapM f = .error error) :
    ∃ value ∈ values, f value = .error error := by
  induction values with
  | nil => cases failed
  | cons first values inductionHypothesis =>
      rw [List.mapM_cons] at failed
      cases isFirst : f first with
      | error other =>
          rw [isFirst] at failed
          cases failed
          exact ⟨first, List.mem_cons_self, isFirst⟩
      | ok result =>
          rw [isFirst] at failed
          cases rest : values.mapM f with
          | error other =>
              rw [rest] at failed
              cases failed
              obtain ⟨value, member, failsThere⟩ := inductionHypothesis rest
              exact ⟨value, List.mem_cons_of_mem _ member, failsThere⟩
          | ok results =>
              rw [rest] at failed
              cases failed

/-- A traversal fails if it fails at one of its members. -/
theorem exists_mapM_eq_error_iff
    {f : value -> Except fault result} {values : List value} :
    (∃ error, values.mapM f = .error error) ↔
      ∃ value ∈ values, ∃ error, f value = .error error := by
  constructor
  · rintro ⟨error, failed⟩
    obtain ⟨value, member, failed⟩ := exists_of_mapM_eq_error failed
    exact ⟨value, member, error, failed⟩
  · rintro ⟨value, member, error, failed⟩
    cases mapped : values.mapM f with
    | error other => exact ⟨other, rfl⟩
    | ok results =>
        obtain ⟨place, isHere⟩ := List.getElem?_of_mem member
        obtain ⟨result, -, succeeded⟩ :=
          exists_getElem?_of_forall₂ (forall₂_of_mapM_eq_ok mapped) isHere
        rw [failed] at succeeded
        cases succeeded

/-- A traversal fails as the first of its members does that fails. -/
theorem mapM_eq_error_iff_findSome?
    {f : value -> Except fault result} {stop? : value -> Option fault}
    (stops : ∀ value error, f value = .error error ↔ stop? value = some error)
    (values : List value) (error : fault) :
    values.mapM f = .error error ↔ values.findSome? stop? = some error := by
  induction values with
  | nil => exact iff_of_false (fun failed => by cases failed) (by simp)
  | cons value values inductionHypothesis =>
      rw [List.mapM_cons, List.findSome?_cons]
      cases first : f value with
      | error other =>
          rw [(stops value other).1 first]
          exact ⟨fun failed => congrArg some (Except.error.inj failed),
            fun found => congrArg Except.error (Option.some.inj found)⟩
      | ok result =>
          have goesOn : stop? value = none := by
            rw [Option.eq_none_iff_forall_ne_some]
            intro other stopped
            rw [(stops value other).2 stopped] at first
            cases first
          rw [goesOn, ← inductionHypothesis]
          cases values.mapM f with
          | error other => rfl
          | ok results =>
              exact iff_of_false (fun failed => by cases failed)
                (fun failed => by cases failed)

/-- What the members of a list imply of their partners holds of all pairs. -/
theorem forall₂_imp_of_mem
    {related implied : value -> result -> Prop}
    {values : List value} {results : List result}
    (pairs : List.Forall₂ related values results)
    (implies : ∀ value ∈ values, ∀ result, related value result ->
      implied value result) :
    List.Forall₂ implied values results := by
  induction pairs with
  | nil => exact .nil
  | cons first _ inductionHypothesis =>
      obtain ⟨firstImplies, restImplies⟩ := List.forall_mem_cons.1 implies
      exact .cons (firstImplies _ first) (inductionHypothesis restImplies)

/-- What every value makes of its result holds of all results. -/
theorem forall_mem_of_forall₂
    {related : value -> result -> Prop} {holds : result -> Prop}
    {values : List value} {results : List result}
    (pairs : List.Forall₂ related values results)
    (implies : ∀ value ∈ values, ∀ result, related value result ->
      holds result) :
    ∀ result ∈ results, holds result := by
  induction pairs with
  | nil => simp
  | cons first _ inductionHypothesis =>
      obtain ⟨firstImplies, restImplies⟩ := List.forall_mem_cons.1 implies
      exact List.forall_mem_cons.2
        ⟨firstImplies _ first, inductionHypothesis restImplies⟩

/-- A list has partners if every member has one. -/
theorem exists_forall₂_iff
    {related : value -> result -> Prop} {values : List value} :
    (∃ results, List.Forall₂ related values results) ↔
      ∀ value ∈ values, ∃ result, related value result := by
  induction values with
  | nil => simp
  | cons value values inductionHypothesis =>
      rw [List.forall_mem_cons, ← inductionHypothesis]
      constructor
      · rintro ⟨results, pairs⟩
        cases pairs with
        | cons first rest => exact ⟨⟨_, first⟩, _, rest⟩
      · rintro ⟨⟨result, first⟩, results, rest⟩
        exact ⟨result :: results, .cons first rest⟩

theorem forall₂_of_mapM_eq_some
    {f : value -> Option result}
    {values : List value} {results : List result}
    (mapped : values.mapM f = some results) :
    List.Forall₂ (fun value result => f value = some result)
      values results := by
  induction values generalizing results with
  | nil =>
      cases Option.some.inj mapped
      exact .nil
  | cons value values inductionHypothesis =>
      rw [List.mapM_cons] at mapped
      obtain ⟨result, first, mapped⟩ := Option.bind_eq_some_iff.1 mapped
      obtain ⟨others, rest, mapped⟩ := Option.bind_eq_some_iff.1 mapped
      cases Option.some.inj mapped
      exact .cons first (inductionHypothesis rest)

theorem mapM_eq_some_of_forall₂
    {f : value -> Option result} {values : List value} {results : List result}
    (succeeds : List.Forall₂ (fun value result => f value = some result)
      values results) :
    values.mapM f = some results := by
  induction succeeds with
  | nil => rfl
  | cons first _ inductionHypothesis =>
      rw [List.mapM_cons, first, inductionHypothesis]
      rfl

/-- A traversal succeeds that succeeds at every member. -/
theorem exists_mapM_eq_some
    {f : value -> Option result} {values : List value}
    (succeeds : ∀ value ∈ values, ∃ result, f value = some result) :
    ∃ results, values.mapM f = some results := by
  induction values with
  | nil => exact ⟨[], rfl⟩
  | cons value values inductionHypothesis =>
      obtain ⟨⟨result, first⟩, rest⟩ := List.forall_mem_cons.1 succeeds
      obtain ⟨results, mapped⟩ := inductionHypothesis rest
      refine ⟨result :: results, ?_⟩
      rw [List.mapM_cons, first, mapped]
      rfl

end PlcLink
