import ScriptTree.Dump.Extract

namespace ScriptTree

/-- What a task of a run does. -/
inductive DumpEvent where
  | announced (path : Text)
  | resumed (task : Nat)
deriving DecidableEq

/-- How far a task has got. -/
inductive DumpTask where
  /-- It has not had a turn. -/
  | created (path : Text)
  /-- It has asked for its file. -/
  | waiting (path : Text)
  /-- Its file has arrived, or the reason why there is none. -/
  | supplied (path : Text) (source : Except SourceError Text)
  | finished (outcome : Except DumpFailure Text)

/-- What a task has come to, if it has finished. -/
def DumpTask.outcome? : DumpTask → Option (Except DumpFailure Text)
  | finished outcome => some outcome
  | _ => none

/-- What moves a run on. -/
inductive DumpMove where
  /-- The first task in the queue takes its turn. -/
  | turn
  /-- The file of a task arrives. -/
  | arrival (task : Nat)
deriving DecidableEq

/-- The state of a run: what has happened, the tasks by number, and the queue. At first all tasks are
in it. In its first turn a task announces its path and asks for its file; files arrive at any time and
in any order, and a task whose file has arrived joins the queue again. -/
structure DumpRun where
  events : List DumpEvent
  tasks : List DumpTask
  queue : List Nat

namespace DumpRun

/-- The run in which no task has had a turn. -/
def start (paths : List Text) : DumpRun where
  events := []
  tasks := paths.map .created
  queue := List.range paths.length

/-- The run after a turn of the first task in the queue. -/
def turn? (parser : SourceParser) (run : DumpRun) : Option DumpRun :=
  match run.queue with
  | [] => none
  | task :: queue =>
    match run.tasks[task]? with
    | some (.created path) => some
        { events := run.events ++ [.announced path]
          tasks := run.tasks.set task (.waiting path)
          queue }
    | some (.supplied path source) => some
        { events := run.events ++ [.resumed task]
          tasks := run.tasks.set task (.finished (dumpRead parser path source))
          queue }
    | _ => none

/-- The run after the file of a task has arrived. -/
def arrive? (fs : FileSystem) (task : Nat) (run : DumpRun) : Option DumpRun :=
  match run.tasks[task]? with
  | some (.waiting path) => some
      { run with
        tasks := run.tasks.set task (.supplied path (fs.sourceAt path))
        queue := run.queue ++ [task] }
  | _ => none

/-- The run after a move, if the move is possible. -/
def move? (parser : SourceParser) (fs : FileSystem) (run : DumpRun) : DumpMove → Option DumpRun
  | .turn => run.turn? parser
  | .arrival task => run.arrive? fs task

/-- The run after moves, if each of them is possible in its turn. -/
def after? (parser : SourceParser) (fs : FileSystem) : List DumpMove → DumpRun → Option DumpRun
  | [], run => some run
  | move :: moves, run => (run.move? parser fs move).bind (after? parser fs moves)

/-- The moves by which a number of tasks all take their first turn and then get their files in a
given order, each going on at once. -/
def movesInOrder (count : Nat) (order : List Nat) : List DumpMove :=
  List.replicate count .turn ++ order.flatMap fun task => [.arrival task, .turn]

/-- The run in which files arrive in a given order of tasks. -/
def inOrder (parser : SourceParser) (fs : FileSystem) (paths : List Text) (order : List Nat) :
    DumpRun :=
  (after? parser fs (movesInOrder paths.length order) (start paths)).getD (start paths)

/-- The paths in the order in which they were announced. -/
def announcements (run : DumpRun) : List Text :=
  run.events.filterMap fun
    | .announced path => some path
    | .resumed _ => none

/-- The outcomes, if all tasks have finished. -/
def results? (run : DumpRun) : Option (List (Except DumpFailure Text)) :=
  run.tasks.mapM DumpTask.outcome?

end DumpRun

end ScriptTree
