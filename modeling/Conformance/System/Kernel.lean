import Conformance.System.World

/-! # What the system does for processes

Each call of a process changes the state and gives the process an answer to go on with. A process
that has to wait for others is not ready; of those that are ready the one goes on whose moment comes
first.
-/

namespace Conformance.System

/-- What a program does that is started with arguments, its own name first, in an environment. -/
abbrev Programs := (name : String) → (args : List String) → Environment → Act

/-- The number of the process that takes in those whose parents have ended. -/
def keeper : Nat := 1

/-- The number of the one outside who starts processes and looks how they end. -/
def outside : Nat := 900

namespace World

/-! ## Ends and signals -/

def note (w : World) (p : Process) (signal : Nat) : World :=
  w.withProcess { p with
    clock := max p.clock w.now
    arrived := if p.arrived.contains signal then p.arrived else p.arrived ++ [signal] }

/-- Ends a process. Its own processes get a new parent, and its parent may learn of it. -/
def finish (w : World) (p : Process) (how : Ended) : World :=
  let others := w.processes.filterMap fun q =>
    if q.parent = p.id then (if q.ended.isSome then none else some { q with parent := keeper })
    else some q
  let w := { w with processes := others }
  let ended := { p with descriptors := [], act := .exit 0, ended := some how, stopped := false }
  let w := if p.parent = keeper then
      { w with processes := w.processes.filter fun q => q.id ≠ p.id }
    else w.withProcess ended
  let w := match w.process? p.parent with
    | some parent =>
      if parent.dispositionOf Signal.childEnded = Disposition.caught then w.note parent Signal.childEnded
      else w
    | none => w
  w.tidy

def release (w : World) (p : Process) : World :=
  w.withProcess { p with stopped := false, held := [], clock := max p.clock w.now }

/-- The time until a process has ended that a signal ends. -/
def deathTime : Nat := 400

def doom (w : World) (p : Process) (signal : Nat) : World :=
  w.withProcess
    { p with act := .crash signal, clock := w.now + deathTime, stopped := false, held := [] }

def strike (w : World) (p : Process) (signal : Nat) : World :=
  match p.dispositionOf signal with
  | .ignored => w
  | .caught => w.note p signal
  | .usual =>
    if Signal.isHarmless signal then w
    else if Signal.isStopping signal then w.withProcess { p with stopped := true }
    else w.doom p signal

/-- Sends a signal to a process. One that is held up takes most signals when it goes on. -/
def send (w : World) (id signal : Nat) : World :=
  match w.process? id with
  | none => w
  | some p =>
    if p.ended.isSome || p.isDoomed || signal = 0 then w
    else if signal = Signal.kill then w.doom p signal
    else if signal = Signal.stop then w.withProcess { p with stopped := true }
    else if signal = Signal.goOn then
      let w := if p.stopped then w.release p else w
      let held := if p.stopped then p.held else []
      (signal :: held).foldl (fun w signal =>
        match w.process? id with
        | some p => if p.ended.isSome || p.isDoomed then w else w.strike p signal
        | none => w) w
    else if p.stopped then w.withProcess { p with held := p.held ++ [signal] }
    else w.strike p signal

/-! ## Files -/

/-- The tree that a path leads to, with its place. What a process has not opened is not there. -/
def look (w : World) (p : Process) (path : String) (follow : Bool) :
    Except Error (List String × Tree) :=
  match (w.filesOf p).find path follow with
  | .error lost => .error (.ofLost lost)
  | .ok ⟨_, false⟩ => .error .missing
  | .ok ⟨place, true⟩ =>
    match w.files.top.get? place with
    | some (.device (.descriptor n)) =>
      if (p.port? n).isSome then .ok (place, .device (.descriptor n)) else .error .missing
    | some t => .ok (place, t)
    | none => .error .missing

def openTree (w : World) (place : List String) (access : Access) :
    Tree → Except Error (World × Port)
  | .dir _ => if access.writes then .error .isDirectory else .ok (w, .directory place)
  | .file content =>
    if access.isNew then .error .taken
    else
      let w := if access.empties && !content.isEmpty then w.putTree place (.file []) else w
      .ok (w, .file { place, access })
  | .program _ => if access.writes then .error .denied else .ok (w, .device .null)
  | .link _ => .error .missing
  | .device .terminal => .error .noDevice
  | .device kind => if access.isNew then .error .taken else .ok (w, .device kind)

def reopen (w : World) (access : Access) : Port → Except Error (World × Port)
  | .device kind => .ok (w, .device kind)
  | .directory place => if access.writes then .error .isDirectory else .ok (w, .directory place)
  | .reader pipe | .writer pipe => .ok (w, if access.writes then .writer pipe else .reader pipe)
  | .capture number => if access.writes then .ok (w, .capture number) else .error .denied
  | .file f =>
    match w.files.top.get? f.place with
    | some t => w.openTree f.place access t
    | none => .error .missing

def openPath (w : World) (p : Process) (path : String) (access : Access) :
    Except Error (World × Port) :=
  match (w.filesOf p).find path (!access.isNew) with
  | .error lost =>
    if lost = .missing && access.makes && path.endsWith "/" then .error .isDirectory
    else .error (.ofLost lost)
  | .ok ⟨place, false⟩ =>
    if access.makes then .ok (w.putTree place (.file []), .file { place, access })
    else .error .missing
  | .ok ⟨place, true⟩ =>
    match w.files.top.get? place with
    | some (.device (.descriptor n)) =>
      match (p.port? n).bind w.port? with
      | some port => w.reopen access port
      | none => .error .missing
    | some t => w.openTree place access t
    | none => .error .missing

def addPort (w : World) (port : Port) : World × Nat :=
  ({ w with ports := (w.nextNumber, port) :: w.ports, nextNumber := w.nextNumber + 1 },
    w.nextNumber)

def deviceName : Device → String
  | .null => "null"
  | .zero => "zero"
  | .full => "full"
  | .terminal => "terminal"
  | .descriptor n => toString n

def infoOf (w : World) (place : List String) : Tree → FileInfo
  | .file content =>
    { kind := .regular, size := content.length, identity := place, changed := w.stamp place }
  | .program _ => { kind := .regular, size := 1, executable := true, identity := place }
  | .dir _ => { kind := .directory, size := 4096, executable := true, identity := place,
                changed := w.stamp place }
  | .link target => { kind := .link, size := target.length, identity := place }
  | .device kind => { kind := .device, identity := ["device", deviceName kind] }

def infoOfPort (w : World) : Port → FileInfo
  | .device kind => { kind := .device, identity := ["device", deviceName kind] }
  | .directory place => w.infoOf place (.dir [])
  | .reader pipe | .writer pipe => { kind := .pipe, identity := ["pipe", toString pipe] }
  | .capture number => { kind := .pipe, identity := ["capture", toString number] }
  | .file f =>
    let info := w.infoOf f.place ((w.files.top.get? f.place).getD (.file []))
    { info with position := if f.access.appends then info.size else f.offset }

/-- The bytes of an open file after its offset. -/
def restOf (w : World) (f : OpenFile) : List UInt8 :=
  let fresh (_ : Unit) : List UInt8 :=
    match w.files.top.get? f.place with
    | some (.file content) => content.drop f.offset
    | _ => []
  match f.rest with
  | some (version, rest) => if version = w.version then rest else fresh ()
  | none => fresh ()

def readPort (w : World) (number limit : Nat) : Port → Except Error (List UInt8 × World)
  | .device .null => .ok ([], w)
  | .device .zero | .device .full => .ok (List.replicate limit 0, w)
  | .device _ => .error .badDescriptor
  | .directory _ => .error .isDirectory
  | .reader pipe =>
    let (bytes, q) := (w.pipe pipe).take limit
    .ok (bytes, w.withPipe pipe q)
  | .writer _ | .capture _ => .error .badDescriptor
  | .file f =>
    if !f.access.reads then .error .badDescriptor
    else
      let rest := w.restOf f
      let bytes := rest.take limit
      let f := { f with offset := f.offset + bytes.length,
                        rest := some (w.version, rest.drop limit) }
      .ok (bytes, w.withPort number (.file f))

def overwrite (content : List UInt8) (offset : Nat) (bytes : List UInt8) : List UInt8 :=
  content.take offset ++ List.replicate (offset - content.length) 0 ++ bytes ++
    content.drop (offset + bytes.length)

def writeFile (w : World) (number : Nat) (f : OpenFile) (bytes : List UInt8) : World :=
  match w.files.top.get? f.place with
  | some (.file content) =>
    let offset := if f.access.appends then content.length else f.offset
    let f := { f with offset := offset + bytes.length, rest := none }
    (w.putTree f.place (.file (overwrite content offset bytes))).withPort number (.file f)
  | _ => w

/-- Writes to a listener. One that has left takes what is written once more. -/
def writeCapture (w : World) (number : Nat) (bytes : List UInt8) : Except Error World :=
  let c := w.capture number
  if c.broken then .error .brokenPipe
  else if c.abandoned then .ok (w.withCapture number { c with broken := true })
  else .ok (w.withCapture number { c with chunks := (w.now, bytes) :: c.chunks })

/-! ## Waiting -/

def children (w : World) (p : Process) : List Process :=
  w.processes.filter fun q => q.parent = p.id

/-- The moment at which a process can go on, if that does not depend on others. -/
def readyAt (w : World) (p : Process) : Option Nat :=
  if !p.isRunning then none
  else match p.act with
    | .call (.sleep time) _ =>
      if p.arrived.isEmpty then time.map (p.clock + ·) else some p.clock
    | .call (.read descriptor _) _ =>
      match (p.port? descriptor).bind w.port? with
      | some (.reader pipe) =>
        if (w.pipe pipe).size = 0 && p.arrived.isEmpty && w.hasWriter pipe then none
        else some p.clock
      | _ => some p.clock
    | .call (.write descriptor _) _ =>
      if !p.waitsForRoom then some p.clock
      else match (p.port? descriptor).bind w.port? with
        | some (.writer pipe) =>
          if Queue.capacity < (w.pipe pipe).size + Queue.block && w.hasReader pipe then none
          else some p.clock
        | _ => some p.clock
    | .call (.await patience) _ =>
      let children := w.children p
      let isDue := patience = .none || children.isEmpty ||
        (children.any fun q => q.ended.isSome) ||
        (patience = .untilSignal && !p.arrived.isEmpty)
      if isDue then some p.clock else none
    | _ => some p.clock

/-! ## Calls -/

def callTime : Nat := 2

def goOn (w : World) (p : Process) (act : Act) (time : Nat) : World :=
  w.withProcess { p with act, clock := w.now + time }

/-- The process with a number goes on, unless it has ended or is about to. -/
def goOnUnlessEnded (w : World) (id : Nat) (act : Act) : World :=
  match w.process? id with
  | some p => if p.ended.isSome || p.isDoomed then w else w.goOn p act callTime
  | none => w

def breakPipe (w : World) (p : Process) (next : Except Error Unit → Act) : World :=
  let id := p.id
  (w.send id Signal.brokenPipe).goOnUnlessEnded id (next (.error .brokenPipe))

/-- Writes what there is room for to a pipe; the process goes on with the rest. A block is not
divided. -/
def writePipe (w : World) (p : Process) (descriptor pipe : Nat) (bytes : List UInt8)
    (next : Except Error Unit → Act) : World :=
  if !w.hasReader pipe then
    (w.withProcess { p with waitsForRoom := false }).breakPipe p next
  else
    let q := w.pipe pipe
    let room := Queue.capacity - q.size
    let size := bytes.length
    if size ≤ room then
      (w.withPipe pipe (q.put bytes)).goOn { p with waitsForRoom := false } (next (.ok ()))
        callTime
    else if size ≤ Queue.block || room = 0 then w.withProcess { p with waitsForRoom := true }
    else
      (w.withPipe pipe (q.put (bytes.take room))).goOn { p with waitsForRoom := true }
        (.call (.write descriptor (bytes.drop room)) next) callTime

def assign (w : World) (p : Process) (descriptor port : Nat) : World × Process :=
  let replaces := (p.port? descriptor).isSome
  let p := p.withDescriptor descriptor port
  let w := w.withProcess p
  (if replaces then w.tidy else w, p)

/-- The processes that a number for signals means. -/
def targets (w : World) (p : Process) (target : Int) : List Process :=
  let group := if target = 0 then p.group else target.natAbs
  w.processes.filter fun q =>
    if 0 < target then q.id = target.toNat
    else target = -1 || q.group = group

def perform (w : World) (p : Process) : (c : Call) → (c.Reply → Act) → World
  | .spend time, next => w.goOn p (next (!p.arrived.isEmpty)) time
  | .sleep _, next => w.goOn p (next (!p.arrived.isEmpty)) callTime
  | .openFile path access, next =>
    match w.openPath p path access with
    | .error e => w.goOn p (next (.error e)) callTime
    | .ok (w, port) =>
      let (w, number) := w.addPort port
      let descriptor := p.freeDescriptor 0
      let (w, p) := w.assign p descriptor number
      w.goOn p (next (.ok descriptor)) callTime
  | .close descriptor, next =>
    let p := { p with descriptors := p.descriptors.filter fun entry => entry.1 ≠ descriptor }
    (w.goOn p (next ()) callTime).tidy
  | .duplicate descriptor target, next =>
    match p.port? descriptor with
    | none => w.goOn p (next (.error .badDescriptor)) callTime
    | some port =>
      let (w, p) := w.assign p target port
      w.goOn p (next (.ok ())) callTime
  | .duplicateAbove descriptor least, next =>
    match p.port? descriptor with
    | none => w.goOn p (next (.error .badDescriptor)) callTime
    | some port =>
      let target := p.freeDescriptor least
      let (w, p) := w.assign p target port
      w.goOn p (next (.ok target)) callTime
  | .pipe, next =>
    let pipe := w.nextNumber
    let w := { w with pipes := (pipe, {}) :: w.pipes, nextNumber := pipe + 1 }
    let (w, reader) := w.addPort (.reader pipe)
    let (w, writer) := w.addPort (.writer pipe)
    let readEnd := p.freeDescriptor 0
    let p := p.withDescriptor readEnd reader
    let writeEnd := p.freeDescriptor 0
    let p := p.withDescriptor writeEnd writer
    w.goOn p (next (readEnd, writeEnd)) callTime
  | .read descriptor limit, next =>
    match p.port? descriptor with
    | none => w.goOn p (next (.error .badDescriptor)) callTime
    | some number =>
      let port := (w.port? number).getD (.device .null)
      let isBlocked := match port with
        | .reader pipe => (w.pipe pipe).size = 0 && w.hasWriter pipe
        | _ => false
      if isBlocked then w.goOn p (next (.error .interrupted)) callTime
      else match w.readPort number limit port with
        | .error e => w.goOn p (next (.error e)) callTime
        | .ok (bytes, w) => w.goOn p (next (.ok bytes)) callTime
  | .write descriptor bytes, next =>
    match p.port? descriptor with
    | none => w.goOn p (next (.error .badDescriptor)) callTime
    | some number =>
      let answer (w : World) (reply : Except Error Unit) : World := w.goOn p (next reply) callTime
      if bytes.isEmpty then answer w (.ok ())
      else match w.port? number with
        | some (.device .full) => answer w (.error .noSpace)
        | some (.device _) => answer w (.ok ())
        | some (.writer pipe) => w.writePipe p descriptor pipe bytes next
        | some (.capture n) =>
          match w.writeCapture n bytes with
          | .ok w => answer w (.ok ())
          | .error _ => w.breakPipe p next
        | some (.file f) =>
          if f.access.writes then answer (w.writeFile number f bytes) (.ok ())
          else answer w (.error .badDescriptor)
        | _ => answer w (.error .badDescriptor)
  | .seek descriptor offset, next =>
    match p.port? descriptor with
    | none => w.goOn p (next (.error .badDescriptor)) callTime
    | some number =>
      match w.port? number with
      | some (.file f) =>
        let w := w.withPort number (.file { f with offset, rest := none })
        w.goOn p (next (.ok ())) callTime
      | some (.device _) => w.goOn p (next (.ok ())) callTime
      | _ => w.goOn p (next (.error .illegalSeek)) callTime
  | .inspect path follow, next =>
    let info := match w.look p path follow with
      | .error e => .error e
      | .ok (_, .device (.descriptor n)) =>
        match (p.port? n).bind w.port? with
        | some port => .ok (w.infoOfPort port)
        | none => .error .missing
      | .ok (place, t) => .ok (w.infoOf place t)
    w.goOn p (next info) callTime
  | .inspectDescriptor descriptor, next =>
    let info := match (p.port? descriptor).bind w.port? with
      | some port => .ok (w.infoOfPort port)
      | none => .error .badDescriptor
    w.goOn p (next info) callTime
  | .list path, next =>
    let names := match w.look p path true with
      | .error e => .error e
      | .ok (_, .dir entries) =>
        .ok ((entries.filter fun entry => match entry.2 with
          | .device (.descriptor n) => (p.port? n).isSome
          | _ => true).map Prod.fst)
      | .ok _ => .error .notDirectory
    w.goOn p (next names) callTime
  | .changeDirectory path, next =>
    match w.look p path true with
    | .error e => w.goOn p (next (.error e)) callTime
    | .ok (place, .dir _) => w.goOn { p with here := place } (next (.ok ())) callTime
    | .ok _ => w.goOn p (next (.error .notDirectory)) callTime
  | .whereAmI, next => w.goOn p (next ("/" ++ String.intercalate "/" p.here)) callTime
  | .whoAmI, next => w.goOn p (next (p.id, p.parent)) 0
  | .await _, next =>
    let children := w.children p
    if children.isEmpty then w.goOn p (next (.error .noChild)) callTime
    else match children.findSome? fun q => q.ended.map fun how => (q.id, how) with
      | some (id, how) =>
        let w := { w with processes := w.processes.filter fun q => q.id ≠ id }
        w.goOn p (next (.ok (some (id, how)))) callTime
      | none => w.goOn p (next (.ok none)) callTime
  | .signal target number, next =>
    let struck := w.targets p target
    let reply : Except Error Unit := if struck.isEmpty then .error .noProcess
      else if Signal.limit ≤ number then .error .invalidArgument else .ok ()
    let w := w.goOn p (next reply) callTime
    match reply with
    | .error _ => w
    | .ok () => struck.foldl (fun w q => w.send q.id number) w
  | .dispose number disposition, next =>
    let dispositions := (number, disposition) ::
      p.dispositions.filter fun entry => entry.1 ≠ number
    w.goOn { p with dispositions } (next ()) 0
  | .disposition number, next => w.goOn p (next (p.dispositionOf number)) 0
  | .arrivals, next => w.goOn { p with arrived := [] } (next p.arrived) 0

/-! ## Programs -/

def maxArgument : Nat := 131071

/-- The most bytes that all arguments and the environment may have together. -/
def maxArguments : Nat := 2097152 - 4096

def tooLong (args : List String) (environment : Environment) : Bool :=
  let sizes := args.map String.length ++
    environment.map fun entry => entry.1.length + entry.2.length + 1
  sizes.any (maxArgument < ·) ||
    maxArguments < sizes.foldl (fun total size => total + size + 9) 0

def programAt (f : Files) (path : String) : Except Error String :=
  match f.find path with
  | .error lost => .error (.ofLost lost)
  | .ok ⟨_, false⟩ => .error .missing
  | .ok ⟨place, true⟩ =>
    match f.top.get? place with
    | some (.program name) => .ok name
    | _ => .error .denied

/-- The time until both processes go on after one has made another, and the time that a program
needs to start. -/
def parentTime : Nat := 80
def childTime : Nat := 250
def startTime : Nat := 600

def split (w : World) (p : Process) (child : Act) (next : Nat → Act) : World :=
  let id := w.nextProcess
  let new := { p with id, parent := p.id, act := child, clock := w.now + childTime, arrived := [],
                      held := [] }
  let w := { w with processes := w.processes ++ [new], nextProcess := id + 1 }
  w.goOn p (next id) parentTime

/-- Lets a process become a program. Descriptors from ten on are not handed over. -/
def become (w : World) (programs : Programs) (p : Process) (path : String) (args : List String)
    (environment : Environment) (next : Error → Act) : World :=
  match programAt (w.filesOf p) path with
  | .error e => w.goOn p (next e) callTime
  | .ok name =>
    if tooLong args environment then w.goOn p (next .listTooLong) callTime
    else
      let p := { p with
        descriptors := p.descriptors.filter fun entry => entry.1 < 10
        dispositions := p.dispositions.filter fun entry => entry.2 = .ignored
        arrived := [] }
      (w.goOn p (programs name args environment) startTime).tidy

def step (w : World) (programs : Programs) (p : Process) : World :=
  match p.act with
  | .exit code => w.finish p (.exited (code % 256))
  | .crash signal => w.finish p (.killed signal)
  | .call c next => w.perform p c next
  | .fork child next => w.split p child next
  | .exec path args environment next => w.become programs p path args environment next

/-! ## Time -/

def next? (w : World) : Option (Nat × Process) :=
  w.processes.foldl (fun best p =>
    match w.readyAt p with
    | none => best
    | some time =>
      let time := max time w.now
      match best with
      | some (earliest, _) => if time < earliest then some (time, p) else best
      | none => some (time, p)) none

/-- Lets processes go on until `done` holds or a moment has come. Without such a moment it ends when
no process can go on. -/
def run (programs : Programs) (until? : Option Nat) (done : World → Bool) : Nat → World → World
  | 0, w => w
  | fuel + 1, w =>
    if done w then w
    else match w.next? with
      | none => { w with now := max w.now (until?.getD w.now) }
      | some (time, p) =>
        if until?.any (· < time) then { w with now := max w.now (until?.getD w.now) }
        else run programs until? done fuel (({ w with now := time } : World).step programs p)

end World

end Conformance.System
