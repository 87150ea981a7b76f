import Scpi.Chain
import Scpi.Procedure

set_option autoImplicit false

namespace Scpi.Chain

-- A command as it is meant: its header from the root, in long forms, and its arguments.
structure Command where
  header : Header
  arguments : List String
deriving DecidableEq, Repr

def endsCommand (token : Token) : Bool := token.kind = .semicolon

def isWord (token : Token) : Bool := token.kind = .command

def isArgument (token : Token) : Bool := token.kind = .argument || token.kind = .quotedString

-- The tokens of each command. What follows the last semicolon is no command.
def commandsOf (tokens : List Token) : List (List Token) := (tokens.splitOnP endsCommand).dropLast

-- Only a colon in front of the first keyword leads back to the root.
def isAbsolute (command : List Token) : Bool :=
  (command.takeWhile fun token => !isWord token).any fun token => token.kind = .colon

def words (command : List Token) : List String := (command.filter isWord).map Token.text

def arguments (command : List Token) : List String := (command.filter isArgument).map Token.text

variable {η : Type}

def base (previous : Header) (command : List Token) : Header :=
  if isAbsolute command then .root else ⟨previous.keywords.dropLast⟩

def headerAfter (commands : CommandSet η) (previous : Header) (command : List Token) : Header :=
  ⟨(base previous command).keywords ++ (words command).map commands.longForm⟩

def planFrom (commands : CommandSet η) (previous : Header) : List (List Token) → List Command
  | [] => []
  | command :: rest =>
      let header := headerAfter commands previous command
      ⟨header, arguments command⟩ :: planFrom commands header rest

def plan (commands : CommandSet η) (tokens : List Token) : List Command :=
  planFrom commands .root (commandsOf tokens)

def Command.call (commands : CommandSet η) (command : Command) : Except Header (Call η) :=
  match commands.handler? command.header with
  | none => .error command.header
  | some handler => .ok ⟨handler, command.arguments⟩

theorem commands_of_ended (commands : List (List Token))
    (inside : ∀ command ∈ commands, ∀ token ∈ command, endsCommand token = false) :
    commandsOf (commands.flatMap fun command => command ++ [.semicolon]) = commands := by
  have split : (commands.flatMap fun command => command ++ [.semicolon]).splitOnP endsCommand =
      commands ++ [[]] := by
    induction commands with
    | nil => rfl
    | cons command rest ih =>
        rw [List.flatMap_cons, List.append_assoc, List.singleton_append,
          List.splitOnP_append_cons_of_forall_mem (inside command (by simp)) .semicolon rfl,
          ih (fun other member => inside other (by simp [member])), List.cons_append]
  rw [commandsOf, split, List.dropLast_concat]

def reading (commands : CommandSet η) (previous : Header) (done : List Token) : Cursor :=
  ⟨headerAfter commands previous done, arguments done, done.any isWord⟩

theorem absolute_cons (token : Token) (rest : List Token) :
    isAbsolute (token :: rest) = (!isWord token && (token.kind = .colon || isAbsolute rest)) := by
  cases word : isWord token <;> simp [isAbsolute, word]

theorem absolute_snoc (done : List Token) (token : Token) :
    isAbsolute (done ++ [token]) =
      (isAbsolute done || (!done.any isWord && token.kind = .colon)) := by
  induction done with
  | nil => cases kind : token.kind <;> simp [isAbsolute, isWord, kind]
  | cons head rest ih =>
      rw [List.cons_append, absolute_cons, absolute_cons, ih, List.any_cons]
      cases isWord head <;> simp [Bool.or_assoc]

theorem words_append (a b : List Token) : words (a ++ b) = words a ++ words b := by
  simp [words]

theorem arguments_append (a b : List Token) : arguments (a ++ b) = arguments a ++ arguments b := by
  simp [arguments]

theorem words_single (token : Token) : words [token] = if isWord token then [token.text] else [] := by
  cases word : isWord token <;> simp [words, word]

theorem arguments_single (token : Token) :
    arguments [token] = if isArgument token then [token.text] else [] := by
  cases argument : isArgument token <;> simp [arguments, argument]

theorem words_nil_of_no_word (done : List Token) (none : done.any isWord = false) : words done = [] := by
  have empty : done.filter isWord = [] := by
    apply List.filter_eq_nil_iff.mpr
    intro token member
    simpa using List.any_eq_false.mp none token member
  simp [words, empty]

theorem reading_snoc (commands : CommandSet η) (previous : Header) (done : List Token) (token : Token) :
    reading commands previous (done ++ [token]) =
      ⟨⟨(if isAbsolute done || (!done.any isWord && token.kind = .colon) then Header.root
            else ⟨previous.keywords.dropLast⟩).keywords ++
          (words done ++ if isWord token then [token.text] else []).map commands.longForm⟩,
        arguments done ++ if isArgument token then [token.text] else [],
        done.any isWord || isWord token⟩ := by
  simp [reading, headerAfter, base, absolute_snoc, words_append, arguments_append, words_single,
    arguments_single]

theorem reading_keyword (commands : CommandSet η) (previous : Header) (done : List Token) (token : Token)
    (kind : token.kind = .command) :
    (reading commands previous done).keyword (commands.longForm token.text) =
      reading commands previous (done ++ [token]) := by
  rw [reading_snoc]
  simp [reading, Cursor.keyword, Header.extend, headerAfter, base, isWord, isArgument, kind]

theorem reading_argument (commands : CommandSet η) (previous : Header) (done : List Token) (token : Token)
    (kind : token.kind = .argument ∨ token.kind = .quotedString) :
    (reading commands previous done).argument token.text = reading commands previous (done ++ [token]) := by
  rw [reading_snoc]
  rcases kind with kind | kind <;>
    simp [reading, Cursor.argument, headerAfter, base, isWord, isArgument, kind]

theorem reading_space (commands : CommandSet η) (previous : Header) (done : List Token) (token : Token)
    (kind : token.kind = .whitespace ∨ token.kind = .newline) :
    reading commands previous done = reading commands previous (done ++ [token]) := by
  rw [reading_snoc]
  rcases kind with kind | kind <;> simp [reading, headerAfter, base, isWord, isArgument, kind]

theorem reading_colon (commands : CommandSet η) (previous : Header) (done : List Token) (token : Token)
    (kind : token.kind = .colon) :
    (reading commands previous done).colon = reading commands previous (done ++ [token]) := by
  rw [reading_snoc]
  cases started : done.any isWord with
  | true => simp [reading, Cursor.colon, headerAfter, base, isWord, isArgument, kind, started]
  | false =>
      -- No keyword has been read, so the header is the base itself.
      have empty := words_nil_of_no_word done started
      simp [reading, Cursor.colon, isWord, isArgument, kind, started, empty, Header.root]

-- The cursor only summarises the tokens of the current command and the header before it.
theorem resolve_from_reading (commands : CommandSet η) (tokens : List Token) (previous : Header)
    (done : List Token) :
    resolveFrom commands (reading commands previous done) tokens =
      (planFrom commands previous (tokens.splitOnPPrepend endsCommand done.reverse).dropLast).mapM
        (Command.call commands) := by
  induction tokens generalizing previous done with
  | nil => simp [resolveFrom, planFrom, pure, Except.pure]
  | cons token rest ih =>
      have inside (kind : token.kind ≠ .semicolon) :
          (token :: rest).splitOnPPrepend endsCommand done.reverse =
            rest.splitOnPPrepend endsCommand (done ++ [token]).reverse := by
        rw [List.splitOnPPrepend_cons_neg (by simp [endsCommand, kind])]
        simp
      cases kind : token.kind with
      | command =>
          rw [inside (by simp [kind]), ← ih]
          simp only [resolveFrom, kind, reading_keyword commands previous done token kind]
      | argument =>
          rw [inside (by simp [kind]), ← ih]
          simp only [resolveFrom, kind, reading_argument commands previous done token (.inl kind)]
      | quotedString =>
          rw [inside (by simp [kind]), ← ih]
          simp only [resolveFrom, kind, reading_argument commands previous done token (.inr kind)]
      | colon =>
          rw [inside (by simp [kind]), ← ih]
          simp only [resolveFrom, kind, reading_colon commands previous done token kind]
      | whitespace =>
          rw [inside (by simp [kind]), ← ih]
          simp only [resolveFrom, kind, ← reading_space commands previous done token (.inl kind)]
      | newline =>
          rw [inside (by simp [kind]), ← ih]
          simp only [resolveFrom, kind, ← reading_space commands previous done token (.inr kind)]
      | semicolon =>
          have next : (reading commands previous done).next =
              reading commands (headerAfter commands previous done) [] := by
            simp [reading, Cursor.next, Header.parent, headerAfter, base, isAbsolute, words, arguments]
          have later := ih (headerAfter commands previous done) []
          rw [List.splitOnPPrepend_cons_pos (by simp [endsCommand, kind]), List.reverse_reverse,
            List.dropLast_cons_of_ne_nil (List.splitOnP_ne_nil _ _)]
          simp only [List.reverse_nil, List.splitOnPPrepend_nil_right] at later
          simp only [resolveFrom, kind, planFrom, List.mapM_cons, Command.call, next, later]
          cases found : commands.handler? (headerAfter commands previous done) with
          | none => simp [reading, found, bind, Except.bind]
          | some handler =>
              cases (planFrom commands (headerAfter commands previous done)
                (rest.splitOnP endsCommand).dropLast).mapM (Command.call commands) <;>
                simp [reading, found, bind, Except.bind, Except.map, pure, Except.pure]

theorem resolve_plan (commands : CommandSet η) (tokens : List Token) :
    resolve commands tokens = (plan commands tokens).mapM (Command.call commands) :=
  resolve_from_reading commands tokens .root []

theorem calls_ok_iff (commands : CommandSet η) (planned : List Command) (calls : List (Call η)) :
    planned.mapM (Command.call commands) = .ok calls ↔
      calls.map (fun call => (some call.handler, call.arguments)) =
        planned.map fun command => (commands.handler? command.header, command.arguments) := by
  induction planned generalizing calls with
  | nil => cases calls <;> simp [pure, Except.pure]
  | cons command rest ih =>
      rw [List.mapM_cons]
      cases found : commands.handler? command.header with
      | none => cases calls <;> simp [Command.call, found, bind, Except.bind]
      | some handler =>
          cases later : rest.mapM (Command.call commands) with
          | error header => cases calls <;> simp [Command.call, found, bind, Except.bind, ← ih, later]
          | ok made =>
              cases calls with
              | nil => simp [Command.call, found, bind, Except.bind, pure, Except.pure]
              | cons call others =>
                  rw [List.map_cons, List.map_cons, List.cons.injEq, ← ih others, later]
                  rcases call with ⟨callHandler, callArguments⟩
                  simp [Command.call, found, bind, Except.bind, pure, Except.pure, eq_comm]

theorem calls_error_iff (commands : CommandSet η) (planned : List Command) (header : Header) :
    planned.mapM (Command.call commands) = .error header ↔
      (planned.map Command.header).find? (fun header => (commands.handler? header).isNone) = some header := by
  induction planned with
  | nil => simp [pure, Except.pure]
  | cons command rest ih =>
      rw [List.mapM_cons, List.map_cons, List.find?_cons]
      cases found : commands.handler? command.header with
      | none => simp [Command.call, found, bind, Except.bind]
      | some handler =>
          simp only [Option.isNone_some, ← ih]
          cases rest.mapM (Command.call commands) <;>
            simp [Command.call, found, bind, Except.bind, pure, Except.pure]

theorem resolves_iff_known (commands : CommandSet η) (tokens : List Token) :
    (∃ calls, resolve commands tokens = .ok calls) ↔
      ∀ command ∈ plan commands tokens, commands.handler? command.header ≠ none := by
  rw [resolve_plan]
  constructor
  · rintro ⟨calls, resolved⟩ command member unknown
    have made : (commands.handler? command.header, command.arguments) ∈
        calls.map fun call => (some call.handler, call.arguments) := by
      rw [(calls_ok_iff commands _ calls).mp resolved]
      exact List.mem_map_of_mem member
    rw [unknown] at made
    simp at made
  · intro known
    cases resolved : (plan commands tokens).mapM (Command.call commands) with
    | ok calls => exact ⟨calls, rfl⟩
    | error header =>
        have first := (calls_error_iff commands _ header).mp resolved
        obtain ⟨command, member, rfl⟩ := List.mem_map.mp (List.mem_of_find?_eq_some first)
        exact absurd (by simpa using List.find?_some first) (known command member)

theorem resolve_as_planned (commands : CommandSet η) (tokens : List Token) :
    ((∃ calls, resolve commands tokens = .ok calls) ↔
      ∀ command ∈ plan commands tokens, commands.handler? command.header ≠ none) ∧
    (∀ calls, resolve commands tokens = .ok calls ↔
      calls.map (fun call => (some call.handler, call.arguments)) =
        (plan commands tokens).map fun command => (commands.handler? command.header, command.arguments)) ∧
    (∀ header, resolve commands tokens = .error header ↔
      ((plan commands tokens).map Command.header).find? (fun header => (commands.handler? header).isNone) =
        some header) ∧
    (∀ header, (Failure.unknownHeader header).message = ":".intercalate header.keywords) := by
  refine ⟨resolves_iff_known commands tokens, ?_, ?_, fun _ => rfl⟩
  · rw [resolve_plan]
    exact calls_ok_iff commands _
  · rw [resolve_plan]
    exact calls_error_iff commands _

end Scpi.Chain
