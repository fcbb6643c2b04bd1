import Conformance.Shell.Expansion

/-! # Redirections

Redirections make descriptors lead to files, to other descriptors or to texts. Where they led before
is noted, so that it can be put back.
-/

namespace Conformance.Shell

open Conformance.System

inductive Target where
  | path (path : String)
  | copy (descriptor : Nat)
  | close
  | document
deriving DecidableEq, Repr

structure Redirected where
  redirection : Redirection
  target : Target

def targetOf (run : Runner) (r : Redirection) : Run Redirected := do
  match r.kind with
  | .text | .expandedText => return ⟨r, .document⟩
  | .copy =>
    let text ← expandText run .single r.target
    match text.toList with
    | ['-'] => return ⟨r, .close⟩
    | [d] =>
      if d.isDigit then return ⟨r, .copy (d.toNat - 48)⟩ else bad
    | _ => bad
  | _ => return ⟨r, .path (← expandText run .single r.target)⟩
where
  /-- Complains about a target that is no descriptor. -/
  bad : Run Redirected := do
    modify fun s => { s with line := s.readLine }
    fail Complaint.badDescriptor.message

def openProblem (path : String) (makes : Bool) (e : Error) : String :=
  let reason := match e with
    | .missing | .notDirectory => if makes then "Directory nonexistent" else "No such file"
    | _ => e.message
  (if makes then "cannot create " else "cannot open ") ++ path ++ ": " ++ reason

def openFile (path : String) (access : Access) : Run Nat := do
  match ← Run.call (.openFile path access) with
  | .ok descriptor => return descriptor
  | .error e => fail (openProblem path access.makes e)

/-- Opens a file for output, unless it would lose what it holds. -/
def openFresh (path : String) : Run Nat := do
  match ← Run.call (.inspect path true) with
  | .error _ => openFile path .fresh
  | .ok info =>
    if info.kind = .regular then fail (openProblem path true .taken)
    else openFile path .existing

/-- Opens a text for reading. One that a pipe might not hold is written by a process of its own. -/
def openText (text : String) : Run Nat := do
  let (readEnd, writeEnd) ← Run.call .pipe
  let bytes := bytesOf text.toList
  if bytes.length ≤ 4096 then
    let _ ← Run.call (.write writeEnd bytes)
  else
    let _ ← fork (fun _ _ => .exit 0) do
      Run.call (.close readEnd)
      for signal in [Signal.interrupt, Signal.quit, Signal.hangUp] do
        Run.call (.dispose signal .ignored)
      Run.call (.dispose Signal.brokenPipe .usual)
      let _ ← Run.call (.write writeEnd bytes)
      return 0
  Run.call (.close writeEnd)
  return readEnd

def openTarget (run : Runner) (r : Redirected) : Run Nat := do
  match r.target, r.redirection.kind with
  | .document, .text => openText (String.ofList (textOf (literal r.redirection.target)))
  | .document, _ => openText (← expandText run .document r.redirection.target)
  | .path path, .input => openFile path .input
  | .path path, .both => openFile path .both
  | .path path, .append => openFile path .append
  | .path path, .output =>
    if (← get).has .noClobber then openFresh path else openFile path .output
  | .path path, _ => openFile path .output
  | _, _ => return 0
where
  literal (w : Word) : List Glyph := w.filterMap fun part => match part with
    | .plain c | .escaped c => some (.plain c)
    | _ => none

/-- The first descriptor that programs are not handed. -/
def firstHidden : Nat := 10

/-- Notes where a descriptor leads, unless that has been done. -/
def saveDescriptor (descriptor : Nat) (isTaken : Bool) : Run Unit := do
  let s ← get
  let scope := s.redirected.headD []
  unless scope.any fun entry => entry.1 = descriptor do
    let former ← if isTaken then pure Former.closed else do
      match ← Run.call (.duplicateAbove descriptor firstHidden) with
      | .ok copy =>
        Run.call (.close descriptor)
        pure (Former.movedTo copy)
      | .error _ => pure Former.closed
    modify fun s => { s with redirected := ((descriptor, former) :: scope) :: s.redirected.drop 1 }

def redirectOne (run : Runner) (saves : Bool) (r : Redirected) : Run Unit := do
  let descriptor := r.redirection.descriptor
  match r.target with
  | .copy source =>
    unless source = descriptor do
      if saves then saveDescriptor descriptor false
      match ← Run.call (.duplicate source descriptor) with
      | .ok () => return
      | .error e => fail (toString source ++ ": " ++ e.message)
  | .close =>
    if saves then saveDescriptor descriptor false
    Run.call (.close descriptor)
  | _ =>
    let opened ← openTarget run r
    if saves then saveDescriptor descriptor (opened = descriptor)
    moveDescriptor opened descriptor

def redirectAll (run : Runner) (saves : Bool) (rs : List Redirected) : Run Unit :=
  rs.forM (redirectOne run saves)

def openRedirections : Run Unit := modify fun s => { s with redirected := [] :: s.redirected }

/-- Redirects descriptors; the answer is a status. Where commands are shown stays as it was. -/
def redirectSafely (run : Runner) (rs : List Redirected) (keepsTrace : Bool) : Run Nat := do
  match ← (redirectAll run true rs).result with
  | .error .failed => return 2
  | .error halt => throw halt
  | .ok () =>
    if keepsTrace && !rs.isEmpty then
      let scope := (← get).redirected.headD []
      match scope.find? fun entry => entry.1 = 2 with
      | some (_, .movedTo copy) => modify fun s => { s with traceDescriptor := copy }
      | _ => pure ()
    return 0

end Conformance.Shell
