import Datapack.Effect

/-! Watching a folder: the sources among the files that changed are handed to a callback, and a
callback that fails does not end the watch. -/

namespace Datapack

/-- What a source of file changes gives next. -/
inductive WatchItem where
  | changes (paths : List Path)
  /-- No more changes will come. -/
  | ended
  /-- The source breaks down. -/
  | failed
  /-- The user wants to stop. -/
  | interrupted
deriving DecidableEq, Repr

/-- The state of a watch that was started. -/
inductive WatchTask where
  | running
  | ended
  | failed
  | interrupted
deriving DecidableEq, Repr

structure Watcher where
  directory : Path
  task : Option WatchTask := none
deriving DecidableEq, Repr

/-- Source files end in `.dps`. -/
def Path.isSource (p : Path) : Bool := p.suffix == ".dps"

/-- The sources among changed files, each of them once. -/
def changedSources (paths : List Path) : List Path := (paths.filter (·.isSource)).eraseDups

namespace Watcher

def running (w : Watcher) : Bool := w.task == some .running

/-- Starts a watch, unless there is one, even if it has ended. -/
def start (w : Watcher) : Watcher × List Effect :=
  match w.task with
  | some _ => (w, [])
  | none =>
    ({ w with task := some .running },
      [.info ("Watching " ++ w.directory.toText ++ " for source changes")])

/-- Stops a watch. The failure of a watch that failed comes up again, and the watch stays. -/
def stop (w : Watcher) : Watcher × List Effect × Except Fault Unit :=
  match w.task with
  | none => (w, [], .ok ())
  | some .failed => (w, [], .error .watchFailed)
  | some _ =>
    ({ w with task := none }, [.info ("Stopped watching " ++ w.directory.toText)], .ok ())

/-- How waiting for the end of a watch goes. -/
inductive Wait where
  | returned
  | blocked
deriving DecidableEq, Repr

def wait (w : Watcher) : Except Fault Wait :=
  match w.task with
  | some .running => .ok .blocked
  | some .failed => .error .watchFailed
  | _ => .ok .returned

/-- Takes what the source of changes gives for as long as the watch runs: what is left of it, and
the state that the callback and the log have come to. -/
def pump {σ : Type} (callback : List Path → σ → σ × Except Fault Unit) (emit : Effect → σ → σ)
    (w : Watcher) (s : σ) : List WatchItem → Watcher × List WatchItem × σ
  | [] => (w, [], s)
  | item :: rest =>
    if !w.running then (w, item :: rest, s)
    else
      match item with
      | .ended => ({ w with task := some .ended }, rest, s)
      | .failed => ({ w with task := some .failed }, rest, s)
      | .interrupted => ({ w with task := some .interrupted }, rest, s)
      | .changes paths =>
        let sources := changedSources paths
        if sources.isEmpty then pump callback emit w s rest
        else
          let s := emit (.info (toString sources.length ++ " source file(s) changed")) s
          match callback sources s with
          | (s, .ok ()) => pump callback emit w s rest
          | (s, .error e) => pump callback emit w (emit (.failure "Recompile after change failed" e) s) rest

end Watcher

end Datapack
