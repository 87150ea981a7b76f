import Mathlib.Data.List.DropRight
import Scpi.Chain
import Scpi.Demo

set_option autoImplicit false

namespace Scpi

namespace Demo

structure Turn where
  call : Call Command
  result : Option String
deriving DecidableEq, Repr

namespace Turn

def resets (turn : Turn) : Bool := turn.call.handler = .reset

def assigned? (turn : Turn) : Option Int :=
  match turn.call with
  | ⟨.assign, text :: _⟩ => (Text.Numeral.read text).toOption
  | _ => none

def misassigns (turn : Turn) : Bool :=
  match turn.call with
  | ⟨.assign, text :: _⟩ => (Text.Numeral.read text).toOption.isNone
  | _ => false

def reports (turn : Turn) : Bool :=
  turn.call.handler = .nextError && turn.result = some "-104,\"Data type error\""

end Turn

def sinceReset (past : List Turn) : List Turn := past.rtakeWhile fun turn => !turn.resets

def latestValue (past : List Turn) : Int := ((sinceReset past).reverse.findSome? Turn.assigned?).getD 0

def countSinceReset (counts : Turn → Bool) (past : List Turn) : Nat := (sinceReset past).countP counts

def misassigned (past : List Turn) : Nat := countSinceReset Turn.misassigns past

def reported (past : List Turn) : Nat := countSinceReset Turn.reports past

-- The state that the turns leave the instrument in: every error that is not yet reported is queued.
def standing (past : List Turn) : State where
  x := latestValue past
  errors := List.replicate (misassigned past - reported past) .dataType

structure Lawful (past : List Turn) (turn : Turn) : Prop where
  value : turn.call.handler = .read → turn.result = some (toString (latestValue past))
  error : turn.call.handler = .nextError → turn.result =
    some (if reported past < misassigned past then "-104,\"Data type error\"" else "0,\"No error\"")
  bare : turn.call = ⟨.assign, []⟩ → turn.result = none ∧ standing (past ++ [turn]) = standing past

theorem since_reset_snoc (past : List Turn) (turn : Turn) :
    sinceReset (past ++ [turn]) = if turn.resets then [] else sinceReset past ++ [turn] := by
  rw [sinceReset, List.rtakeWhile_concat]
  cases turn.resets <;> rfl

theorem latest_value_snoc (past : List Turn) (turn : Turn) :
    latestValue (past ++ [turn]) = if turn.resets then 0 else turn.assigned?.getD (latestValue past) := by
  rw [latestValue, since_reset_snoc]
  split
  · rfl
  · rw [List.reverse_append, List.reverse_singleton, List.singleton_append, List.findSome?_cons]
    cases turn.assigned? <;> rfl

theorem count_since_reset_snoc (counts : Turn → Bool) (past : List Turn) (turn : Turn) :
    countSinceReset counts (past ++ [turn]) =
      if turn.resets then 0 else countSinceReset counts past + if counts turn then 1 else 0 := by
  rw [countSinceReset, since_reset_snoc]
  split
  · rfl
  · rw [List.countP_append, List.countP_singleton]
    rfl

-- Every error is queued that has not been reported. There is only one kind of error, so their number says all.
structure Stands (past : List Turn) (state : State) : Prop where
  value : state.x = latestValue past
  errors : state.errors.length + reported past = misassigned past

theorem stands_standing (past : List Turn) (state : State) (stands : Stands past state) :
    state = standing past := by
  obtain ⟨x, errors⟩ := state
  obtain ⟨rfl, queued⟩ := stands
  change errors.length + reported past = misassigned past at queued
  have waiting : errors = List.replicate errors.length .dataType :=
    List.eq_replicate_of_mem fun error _ => by cases error; rfl
  rw [standing, ← queued, Nat.add_sub_cancel, ← waiting]

theorem stands_snoc (past : List Turn) (turn : Turn) (state : State) (stays : turn.resets = false)
    (value : state.x = turn.assigned?.getD (latestValue past))
    (errors : state.errors.length + (reported past + if turn.reports then 1 else 0) =
      misassigned past + if turn.misassigns then 1 else 0) :
    Stands (past ++ [turn]) state := by
  constructor
  · rw [latest_value_snoc, stays]
    exact value
  · rw [reported, misassigned, count_since_reset_snoc, count_since_reset_snoc, stays]
    exact errors

theorem stands_reset (past : List Turn) (turn : Turn) (resets : turn.resets = true) :
    Stands (past ++ [turn]) .initial := by
  constructor
  · rw [latest_value_snoc, resets]
    rfl
  · rw [reported, misassigned, count_since_reset_snoc, count_since_reset_snoc, resets]
    rfl

theorem assign_stands (past : List Turn) (text : String) (others : List String) (state : State)
    (stands : Stands past state) :
    let step := perform .assign (text :: others) state
    Stands (past ++ [⟨⟨.assign, text :: others⟩, step.1⟩]) step.2 := by
  have queued := stands.errors
  cases number : Text.Numeral.read text with
  | ok x =>
      simp only [perform, number]
      refine stands_snoc past _ _ rfl ?_ ?_
      · simp only [Turn.assigned?, number, Except.toOption, Option.getD_some]
      · simpa [Turn.reports, Turn.misassigns, number, Except.toOption] using queued
  | error fault =>
      simp only [perform, number]
      refine stands_snoc past _ _ rfl ?_ ?_
      · simpa [Turn.assigned?, number, Except.toOption] using stands.value
      · have counted : Turn.misassigns ⟨⟨.assign, text :: others⟩, none⟩ = true := by
          simp only [Turn.misassigns, number, Except.toOption, Option.isNone_none]
        rw [counted, List.length_append, ← queued]
        change state.errors.length + 1 + (reported past + 0) = state.errors.length + reported past + 1
        omega

theorem next_error_stands (past : List Turn) (arguments : List String) (state : State)
    (stands : Stands past state) :
    let step := perform .nextError arguments state
    Stands (past ++ [⟨⟨.nextError, arguments⟩, step.1⟩]) step.2 := by
  obtain ⟨x, _ | ⟨error, rest⟩⟩ := state
  · exact stands_snoc past _ _ rfl stands.value stands.errors
  · cases error
    refine stands_snoc past _ _ rfl stands.value ?_
    have queued := stands.errors
    change rest.length + 1 + reported past = misassigned past at queued
    change rest.length + (reported past + 1) = misassigned past
    omega

theorem perform_stands (past : List Turn) (call : Call Command) (state : State) (stands : Stands past state) :
    let step := perform call.handler call.arguments state
    Stands (past ++ [⟨call, step.1⟩]) step.2 := by
  obtain ⟨command, arguments⟩ := call
  cases command with
  | identify => exact stands_snoc past _ state rfl stands.value stands.errors
  | reset => exact stands_reset past _ rfl
  | nextError => exact next_error_stands past arguments state stands
  | assign =>
      cases arguments with
      | nil => exact stands_snoc past _ state rfl stands.value stands.errors
      | cons text others => exact assign_stands past text others state stands
  | read => exact stands_snoc past _ state rfl stands.value stands.errors

theorem perform_lawful (past : List Turn) (call : Call Command) (state : State) (stands : Stands past state) :
    Lawful past ⟨call, (perform call.handler call.arguments state).1⟩ where
  value := by
    intro read
    obtain ⟨command, arguments⟩ := call
    cases read
    rw [← stands.value]
    rfl
  error := by
    intro asked
    obtain ⟨command, arguments⟩ := call
    cases asked
    have queued := stands.errors
    obtain ⟨x, _ | ⟨error, rest⟩⟩ := state
    · have settled : ¬ reported past < misassigned past := by
        simp only [List.length_nil] at queued
        omega
      rw [if_neg settled]
      rfl
    · have owing : reported past < misassigned past := by
        simp only [List.length_cons] at queued
        omega
      rw [if_pos owing]
      cases error
      rfl
  bare := by
    intro bare
    cases bare
    have after := perform_stands past ⟨.assign, []⟩ state stands
    exact ⟨rfl, (stands_standing _ state after).symm.trans (stands_standing past state stands)⟩

def AllLawful (past : List Turn) : List Turn → Prop
  | [] => True
  | turn :: rest => Lawful past turn ∧ AllLawful (past ++ [turn]) rest

theorem all_lawful_append (past first second : List Turn) (lawful : AllLawful past first)
    (following : AllLawful (past ++ first) second) : AllLawful past (first ++ second) := by
  induction first generalizing past with
  | nil => rwa [List.append_nil] at following
  | cons turn rest ih =>
      refine ⟨lawful.1, ih (past ++ [turn]) lawful.2 ?_⟩
      rwa [List.append_assoc]

theorem all_lawful_at (past before after : List Turn) (turn : Turn)
    (lawful : AllLawful past (before ++ turn :: after)) : Lawful (past ++ before) turn := by
  induction before generalizing past with
  | nil =>
      rw [List.append_nil]
      exact lawful.1
  | cons first rest ih =>
      have later := ih (past ++ [first]) lawful.2
      rwa [List.append_assoc] at later

end Demo

end Scpi
