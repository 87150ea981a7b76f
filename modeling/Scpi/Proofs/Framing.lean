import Scpi.Console
import Scpi.Proofs.Shorthand
import Scpi.Proofs.Unknown

set_option autoImplicit false

namespace Scpi

-- Inputs are taken in turn: each one leads from a state to the next and has one output.
inductive InTurn {α β S : Type} (step : α → S → β → S → Prop) : List α → S → List β → S → Prop where
  | done (state : S) : InTurn step [] state [] state
  | next (input : α) (rest : List α) (output : β) (outputs : List β) (state middle later : S) :
      step input state output middle → InTurn step rest middle outputs later →
        InTurn step (input :: rest) state (output :: outputs) later

theorem in_turn_total {α β S : Type} (step : α → S → β → S → Prop) (holds : S → Prop) (good : β → Prop)
    (inputs : List α) (state : S) (starts : holds state)
    (goes : ∀ input ∈ inputs, ∀ state, holds state →
      ∃ output later, step input state output later ∧ good output ∧ holds later) :
    ∃ outputs later, InTurn step inputs state outputs later ∧ (∀ output ∈ outputs, good output) ∧
      holds later := by
  induction inputs generalizing state with
  | nil => exact ⟨[], state, .done state, by simp, starts⟩
  | cons input rest ih =>
      obtain ⟨output, middle, first, fine, still⟩ := goes input List.mem_cons_self state starts
      obtain ⟨outputs, later, following, allFine, ends⟩ :=
        ih middle still fun other member => goes other (List.mem_cons_of_mem input member)
      refine ⟨output :: outputs, later, .next _ _ _ _ _ _ _ first following, ?_, ends⟩
      exact List.forall_mem_cons.mpr ⟨fine, allFine⟩

theorem in_turn_imp {α β S : Type} (step other : α → S → β → S → Prop)
    (implies : ∀ input state output later, step input state output later → other input state output later)
    (inputs : List α) (outputs : List β) (state later : S) (turns : InTurn step inputs state outputs later) :
    InTurn other inputs state outputs later := by
  induction turns with
  | done state => exact .done state
  | next input rest output outputs state middle later first _ ih =>
      exact .next _ _ _ _ _ _ _ (implies input state output middle first) ih

theorem Chain.calls_bound {η : Type} (commands : CommandSet η) (tokens : List Token) (calls : List (Call η))
    (resolved : resolve commands tokens = .ok calls) :
    ∀ call ∈ calls, ∃ header, commands.handler? header = some call.handler := by
  rw [resolve_plan, calls_ok_iff] at resolved
  intro call member
  have bound : (some call.handler, call.arguments) ∈ (plan commands tokens).map
      fun command => (commands.handler? command.header, command.arguments) := by
    rw [← resolved]
    exact List.mem_map_of_mem member
  obtain ⟨command, _, same⟩ := List.mem_map.mp bound
  exact ⟨command.header, congrArg Prod.fst same⟩

namespace Console

variable {η σ : Type} {n m : Nat}

def OneLine (text : String) : Prop := '\n' ∉ text.toList

def Plain (text : String) : Prop := '"' ∉ text.toList ∧ OneLine text

instance (text : String) : Decidable (OneLine text) := inferInstanceAs (Decidable ('\n' ∉ text.toList))

instance (text : String) : Decidable (Plain text) := instDecidableAnd

section

variable (behaviour : Behaviour η n σ) (depth : Nat) (i : Fin n)

def CarriedOut (call : Call η) (bench : Bench η n m σ) (result : Option String)
    (later : Bench η n m σ) : Prop :=
  Bench.perform (Bench.acceptWithin behaviour depth) behaviour call bench = some (.ok result, later)

inductive Visits (start : Bench η n m σ) : Bench η n m σ → Prop where
  | start : Visits start start
  | resolved (bench : Bench η n m σ) (query : String) :
      Visits start bench → Visits start (bench.resolve i query).2
  | noted (bench : Bench η n m σ) (notices : List Notice) :
      Visits start bench → Visits start (bench.note notices)
  | performed (bound bench later : Bench η n m σ) (header : Header) (call : Call η) (result : Option String) :
      Visits start bound → (bound.commandSet i).handler? header = some call.handler → Visits start bench →
        CarriedOut behaviour depth call bench result later → Visits start later

-- What the console relies on: plain keywords, and handlers that do not fail and reply with one line or with
-- nothing. A handler may be called after its command was defined anew, so any that was known counts.
structure Dependable (start : Bench η n m σ) : Prop where
  keywords : ∀ bench, Visits behaviour depth i start bench → ∀ header handler,
    (bench.commandSet i).handler? header = some handler → ∀ keyword ∈ header.keywords, Plain keyword
  replies : ∀ bound, Visits behaviour depth i start bound → ∀ header call,
    (bound.commandSet i).handler? header = some call.handler → ∀ bench, Visits behaviour depth i start bench →
      ∃ result later, CarriedOut behaviour depth call bench result later ∧ ∀ text ∈ result, OneLine text

inductive Exchange (line : String) (bench : Bench η n m σ) : Option String → Bench η n m σ → Prop where
  | blank : Text.trim line = "" → Exchange line bench none bench
  | rejected (header : Header) : Text.trim line ≠ "" →
      Chain.resolve (bench.commandSet i) (Query.tokens (Text.trim line)) = .error header → Plain header.text →
        Exchange line bench (some ("ERR \"" ++ header.text ++ "\"\n"))
          (bench.note [.unknown header, .rejected (Text.trim line) header])
  | silent (calls : List (Call η)) (results : List (Option String)) (later : Bench η n m σ) :
      Text.trim line ≠ "" →
      Chain.resolve (bench.commandSet i) (Query.tokens (Text.trim line)) = .ok calls →
      InTurn (CarriedOut behaviour depth) calls (bench.resolve i (Text.trim line)).2 results later →
      (∀ result ∈ results, result = none) → Exchange line bench none later
  | answered (calls : List (Call η)) (results : List (Option String)) (later : Bench η n m σ) :
      Text.trim line ≠ "" →
      Chain.resolve (bench.commandSet i) (Query.tokens (Text.trim line)) = .ok calls →
      InTurn (CarriedOut behaviour depth) calls (bench.resolve i (Text.trim line)).2 results later →
      (∃ result ∈ results, result ≠ none) →
        Exchange line bench (some (";".intercalate (results.filterMap id) ++ "\n")) later

def Framed (text : String) : Prop := ∃ body, text = body ++ "\n" ∧ OneLine body

theorem intercalate_avoids (c : Char) (mark : String) (texts : List String) (outside : c ∉ mark.toList)
    (absent : ∀ text ∈ texts, c ∉ text.toList) : c ∉ (mark.intercalate texts).toList := by
  cases texts with
  | nil => simp [String.intercalate_nil]
  | cons first rest =>
      rw [Query.intercalate_cons, List.mem_append, List.mem_flatMap]
      rintro (inside | ⟨text, member, inside⟩)
      · exact absent first List.mem_cons_self inside
      · rcases List.mem_append.mp inside with between | inside
        · exact outside between
        · exact absent text (List.mem_cons_of_mem first member) inside

theorem word_is_plain (word : String) (isWord : Query.IsWord word) : Plain word :=
  ⟨Query.word_without_quote word isWord,
    Query.alphabet_absent Query.isCommandChar '\n' rfl word.toList isWord.2⟩

theorem header_text_plain (header : Header) (plain : ∀ keyword ∈ header.keywords, Plain keyword) :
    Plain header.text :=
  ⟨intercalate_avoids '"' ":" header.keywords (by decide) fun keyword member => (plain keyword member).1,
    intercalate_avoids '\n' ":" header.keywords (by decide) fun keyword member => (plain keyword member).2⟩

theorem error_line_framed (header : Header) (plain : Plain header.text) : Framed (errorLine header) := by
  refine ⟨"ERR \"" ++ header.text ++ "\"", ?_, ?_⟩
  · rw [errorLine, show "\"\n" = "\"" ++ "\n" from rfl, ← String.append_assoc]
  · rw [OneLine, String.toList_append, String.toList_append]
    simp only [List.mem_append, not_or]
    exact ⟨⟨by decide, plain.2⟩, by decide⟩

theorem answer_line_iff (results : List (Option String)) :
    answerLine? results = none ↔ ∀ result ∈ results, result = none := by
  have absent : results.filterMap id = [] ↔ ∀ result ∈ results, result = none :=
    List.filterMap_eq_nil_iff
  rw [← absent, answerLine?]
  cases results.filterMap id <;> simp

theorem answer_line_spoken (results : List (Option String)) (line : String)
    (spoken : answerLine? results = some line) : line = ";".intercalate (results.filterMap id) ++ "\n" := by
  rw [answerLine?] at spoken
  split at spoken
  · cases spoken
  · exact (Option.some.inj spoken).symm

theorem answer_line_framed (results : List (Option String)) (line : String)
    (oneLine : ∀ result ∈ results, ∀ text ∈ result, OneLine text) (spoken : answerLine? results = some line) :
    Framed line := by
  refine ⟨_, answer_line_spoken results line spoken, ?_⟩
  apply intercalate_avoids '\n' ";" _ (by decide)
  intro text member
  exact oneLine (some text) (by simpa using member) text rfl

theorem serve_in_turn (lines : List String) (responses : List (Option String)) (bench later : Bench η n m σ)
    (turns : InTurn (fun line bench response later =>
      respond behaviour depth i line bench = some (.ok response, later)) lines bench responses later) :
    serve behaviour depth i lines bench = some ⟨responses.filterMap id, none, later⟩ := by
  induction turns with
  | done bench => rfl
  | next line rest response responses bench middle later first _ ih =>
      rw [serve, first]
      simp only [ih, Option.map_some]
      cases response <;> rfl

theorem perform_in_turn (calls : List (Call η)) (results : List (Option String)) (bench later : Bench η n m σ)
    (turns : InTurn (CarriedOut behaviour depth) calls bench results later) :
    Bench.performAll (Bench.acceptWithin behaviour depth) behaviour calls bench = some (.ok results, later) := by
  induction turns with
  | done bench => rfl
  | next call rest result results bench middle later first _ ih =>
      rw [Bench.perform_all_ok _ behaviour call rest bench middle result first, ih]
      rfl

-- No more is written than there are lines that are not blank.
theorem exchanges_length (lines : List String) (responses : List (Option String)) (bench later : Bench η n m σ)
    (turns : InTurn (Exchange behaviour depth i) lines bench responses later) :
    (responses.filterMap id).length ≤ (lines.filter fun line => Text.trim line ≠ "").length := by
  induction turns with
  | done bench => exact Nat.le_refl 0
  | next line rest response responses bench middle later first _ ih =>
      cases first with
      | blank empty => simpa [empty] using ih
      | rejected header present => simpa [present] using ih
      | silent calls results later present => simpa [present] using Nat.le_succ_of_le ih
      | answered calls results later present => simpa [present] using ih

variable (start : Bench η n m σ)

theorem visits_sound (bench : Bench η n m σ) (visits : Visits behaviour depth i start bench)
    (faithful : Bench.Faithful start) (defined : Bench.Defined start) :
    Bench.Faithful bench ∧ Bench.Defined bench := by
  have keeps (bench later : Bench η n m σ) (leads : Bench.Leads bench later)
      (sound : Bench.Faithful bench ∧ Bench.Defined bench) : Bench.Faithful later ∧ Bench.Defined later :=
    ⟨Bench.leads_faithful bench later leads sound.1, Bench.leads_defined bench later leads sound.2⟩
  induction visits with
  | start => exact ⟨faithful, defined⟩
  | resolved bench query _ ih => exact keeps bench _ (Bench.leads_change bench (.resolve i query)) ih
  | noted bench notices _ ih => exact ih
  | performed bound bench later header call result _ _ _ carried _ ih =>
      have stepwise := Bench.accept_stepwise behaviour depth (m := m)
      exact keeps bench later (Bench.perform_leads _ stepwise behaviour call bench later _ carried) ih

theorem unknown_plain (bench : Bench η n m σ) (dependable : Dependable behaviour depth i start)
    (visits : Visits behaviour depth i start bench) (defined : Bench.Defined bench) (query : String)
    (header : Header) (unknown : Chain.resolve (bench.commandSet i) (Query.tokens query) = .error header) :
    Plain header.text := by
  obtain ⟨definitions, same⟩ := defined i
  have plain := dependable.keywords bench visits
  rw [same] at unknown plain
  -- A keyword of the header is a word of the query, or a keyword of a definition in its place.
  refine header_text_plain header (Chain.unknown_keywords _ Plain query header ?_ unknown)
  intro word isWord
  refine CommandSet.long_form_from definitions Plain word ?_ (word_is_plain word isWord)
  intro keyword member
  obtain ⟨definition, inside, own⟩ := List.mem_flatMap.mp member
  have known := CommandSet.latest_handler_defined definitions definition inside
  rw [← CommandSet.handler_of_definitions] at known
  obtain ⟨handler, found⟩ := Option.ne_none_iff_exists'.mp known
  exact plain _ handler found keyword own

theorem respond_rejected (bench : Bench η n m σ) (faithful : Bench.Faithful bench) (line : String)
    (present : Text.trim line ≠ "") (header : Header)
    (unknown : Chain.resolve (bench.commandSet i) (Query.tokens (Text.trim line)) = .error header) :
    respond behaviour (depth + 1) i line bench = some (.ok (some (errorLine header)),
      bench.note [.unknown header, .rejected (Text.trim line) header]) := by
  have own := Bench.resolve_calls i (Text.trim line) bench faithful
  rw [unknown] at own
  have failed := Bench.accept_unknown behaviour depth i (Text.trim line) header bench own
  simp only [respond, if_neg present, failed, Bench.note, List.append_assoc]
  rfl

theorem respond_known (bench later : Bench η n m σ) (faithful : Bench.Faithful bench) (line : String)
    (present : Text.trim line ≠ "") (calls : List (Call η)) (results : List (Option String))
    (known : Chain.resolve (bench.commandSet i) (Query.tokens (Text.trim line)) = .ok calls)
    (turns : InTurn (CarriedOut behaviour depth) calls (bench.resolve i (Text.trim line)).2 results later) :
    respond behaviour (depth + 1) i line bench = some (.ok (answerLine? results), later) := by
  have own := Bench.resolve_calls i (Text.trim line) bench faithful
  rw [known] at own
  have answered := Bench.accept_known behaviour depth i (Text.trim line) calls bench own
  rw [perform_in_turn behaviour depth calls results _ later turns] at answered
  simp only [respond, if_neg present, answered]

theorem calls_carried_out (bench : Bench η n m σ) (dependable : Dependable behaviour depth i start)
    (visits : Visits behaviour depth i start bench) (query : String) (calls : List (Call η))
    (known : Chain.resolve (bench.commandSet i) (Query.tokens query) = .ok calls) :
    ∃ results later, InTurn (CarriedOut behaviour depth) calls (bench.resolve i query).2 results later ∧
      (∀ result ∈ results, ∀ text ∈ result, OneLine text) ∧ Visits behaviour depth i start later := by
  apply in_turn_total _ (Visits behaviour depth i start) _ calls _ (.resolved bench query visits)
  intro call member middle still
  obtain ⟨header, found⟩ := Chain.calls_bound _ _ calls known call member
  obtain ⟨result, later, carried, oneLine⟩ := dependable.replies bench visits header call found middle still
  exact ⟨result, later, carried, oneLine, .performed bench middle later header call result visits found still carried⟩

theorem respond_exchange (bench : Bench η n m σ) (faithful : Bench.Faithful start)
    (defined : Bench.Defined start) (dependable : Dependable behaviour depth i start)
    (visits : Visits behaviour depth i start bench) (line : String) :
    ∃ response later, (respond behaviour (depth + 1) i line bench = some (.ok response, later) ∧
      Exchange behaviour depth i line bench response later) ∧ (∀ text ∈ response, Framed text) ∧
        Visits behaviour depth i start later := by
  obtain ⟨stored, present⟩ := visits_sound behaviour depth i start bench visits faithful defined
  by_cases empty : Text.trim line = ""
  · have quiet : respond behaviour (depth + 1) i line bench = some (.ok none, bench) := by
      simp only [respond, if_pos empty]
    exact ⟨none, bench, ⟨quiet, .blank empty⟩, by simp, visits⟩
  · cases resolved : Chain.resolve (bench.commandSet i) (Query.tokens (Text.trim line)) with
    | error header =>
        have plain := unknown_plain behaviour depth i start bench dependable visits present _ header resolved
        refine ⟨_, _, ⟨respond_rejected behaviour depth i bench stored line empty header resolved,
          .rejected header empty resolved plain⟩, ?_, .noted bench _ visits⟩
        intro text written
        rw [← Option.some.inj written]
        exact error_line_framed header plain
    | ok calls =>
        obtain ⟨results, later, turns, oneLine, still⟩ :=
          calls_carried_out behaviour depth i start bench dependable visits _ calls resolved
        have answer := respond_known behaviour depth i bench later stored line empty calls results resolved turns
        refine ⟨_, later, ⟨answer, ?_⟩, fun text => answer_line_framed results text oneLine, still⟩
        have silent := answer_line_iff results
        cases spoken : answerLine? results with
        | none => exact .silent calls results later empty resolved turns (silent.mp spoken)
        | some text =>
            rw [answer_line_spoken results text spoken]
            refine .answered calls results later empty resolved turns ?_
            apply Classical.byContradiction
            intro absent
            have none := silent.mpr fun result member =>
              Classical.byContradiction fun some => absent ⟨result, member, some⟩
            rw [spoken] at none
            cases none

end

theorem lines_framed (behaviour : Behaviour η n σ) (policies : Vector Policy m) (policyOf : Vector (Fin m) n)
    (memory : σ) (start : Bench η n m σ) (reached : Bench.Leads (Bench.fresh policies policyOf memory) start)
    (depth : Nat) (i : Fin n) (dependable : Dependable behaviour depth i start) (lines : List String) :
    ∃ served responses, serve behaviour (depth + 1) i lines start = some served ∧ served.failure = none ∧
      InTurn (Exchange behaviour depth i) lines start responses served.bench ∧
      served.written = responses.filterMap id ∧
      (∀ text ∈ served.written, ∃ body, text = body ++ "\n" ∧ OneLine body) ∧
      served.written.length ≤ (lines.filter fun line => Text.trim line ≠ "").length := by
  have faithful := Bench.leads_faithful _ start reached (Bench.fresh_faithful policies policyOf memory)
  have defined := Bench.leads_defined _ start reached (Bench.fresh_defined policies policyOf memory)
  have begins : Visits behaviour depth i start start := .start
  obtain ⟨responses, later, turns, framed, _⟩ := in_turn_total _ _ _ lines start begins
    fun line _ bench visits => respond_exchange behaviour depth i start bench faithful defined dependable visits line
  have exchanges := in_turn_imp _ (Exchange behaviour depth i) (fun _ _ _ _ => And.right) _ _ _ _ turns
  have responds := in_turn_imp _ _ (fun _ _ _ _ => And.left) _ _ _ _ turns
  refine ⟨⟨responses.filterMap id, none, later⟩, responses,
    serve_in_turn behaviour (depth + 1) i lines responses start later responds, rfl, exchanges, rfl, ?_,
    exchanges_length behaviour depth i lines responses start later exchanges⟩
  intro text member
  obtain ⟨response, inside, written⟩ := List.mem_filterMap.mp member
  exact framed response inside text written

theorem numeral_one_line (x : Int) : OneLine (toString x) := by
  have digits (n : Nat) : '\n' ∉ n.repr.toList := by
    rw [Nat.toList_repr]
    intro member
    have digit := Nat.isDigit_of_mem_toDigits (by decide) (by decide) member
    revert digit
    decide
  rw [Int.toString_eq_repr, Int.repr_eq_if, OneLine]
  split
  · exact digits x.toNat
  · rw [String.toList_append, List.mem_append, not_or]
    exact ⟨by decide, digits _⟩

theorem demo_reply_one_line (command : Demo.Command) (arguments : List String) (state : Demo.State) :
    ∀ text ∈ (Demo.perform command arguments state).1, OneLine text := by
  intro text replied
  cases command with
  | identify =>
      cases replied
      decide
  | reset => cases replied
  | nextError =>
      rcases state with ⟨x, _ | ⟨error, rest⟩⟩
      · cases replied
        decide
      · cases replied
        cases error
        decide
  | assign =>
      cases arguments with
      | nil => cases replied
      | cons first rest =>
          simp only [Demo.perform] at replied
          split at replied <;> cases replied
  | read =>
      cases replied
      exact numeral_one_line state.x

theorem demo_perform (call : Call Demo.Command) (bench : DemoBench) :
    let step := Demo.perform call.handler call.arguments bench.memory
    CarriedOut demoBehaviour 0 call bench step.1 { bench.record call with memory := step.2 } := rfl

theorem demo_commands (bench : DemoBench) (visits : Visits demoBehaviour 0 0 demoBench bench) :
    bench.commandSet 0 = CommandSet.ofDefinitions Demo.definitions := by
  have kept : bench.commands = demoBench.commands := by
    induction visits with
    | start => rfl
    | resolved bench query _ ih =>
        obtain ⟨caches, notices, same⟩ := Bench.resolve_frame 0 query bench
        rw [same]
        exact ih
    | noted bench notices _ ih => exact ih
    | performed bound bench later header call result _ _ _ carried _ ih =>
        have same := (demo_perform call bench).symm.trans carried
        simp only [Option.some.injEq, Prod.mk.injEq] at same
        rw [← same.2]
        exact ih
  rw [Bench.commandSet, kept]
  decide +kernel

theorem demo_dependable : Dependable demoBehaviour 0 0 demoBench where
  keywords := by
    intro bench visits header handler found
    rw [demo_commands bench visits, CommandSet.handler_of_definitions] at found
    obtain ⟨text, member, rfl⟩ := CommandSet.latest_handler_some _ _ _ found
    have plain : ∀ definition ∈ Demo.definitions,
        ∀ keyword ∈ (Header.ofText definition.1).keywords, Plain keyword := by decide +kernel
    exact plain (text, handler) member
  replies := fun _ _ _ call _ bench _ => ⟨_, _, demo_perform call bench, demo_reply_one_line _ _ _⟩

theorem demo_lines_framed :
    let lines := ["*IDN?", " \t", "VAR:X 5;X?", "VAR:BOGUS\"x\ny\" 1", " *RST\n", "VAR:X?"]
    let start := Bench.fresh #v[Policy.standard] #v[0] Demo.State.initial
    Bench.Leads start demoBench ∧ Dependable demoBehaviour 0 0 demoBench ∧
      ∃ served responses, serveDemo lines demoBench = some served ∧
        served.written = ["scpi-parser,Demo Instrument,0,1.0\n", "5\n", "ERR \"VAR:BOGUS\"\n", "0\n"] ∧
        InTurn (Exchange demoBehaviour 0 0) lines demoBench responses served.bench ∧
        served.written = responses.filterMap id := by
  intro lines start
  have reached : Bench.Leads start demoBench := by
    have leads := Bench.leads_all start (Demo.definitions.map fun definition =>
      .act (.define 0 definition.1 definition.2))
    rw [List.foldl_map] at leads
    exact leads
  obtain ⟨served, responses, ended, _, exchanges, written, _⟩ :=
    lines_framed demoBehaviour _ _ _ demoBench reached 0 0 demo_dependable lines
  have texts : (serveDemo lines demoBench).map Served.written =
      some ["scpi-parser,Demo Instrument,0,1.0\n", "5\n", "ERR \"VAR:BOGUS\"\n", "0\n"] := by decide +kernel
  change serveDemo lines demoBench = some served at ended
  rw [ended] at texts
  exact ⟨reached, demo_dependable, served, responses, ended, Option.some.inj texts, exchanges, written⟩

end Console

end Scpi
