import Diagnostics.Sandbox.Task

/-!
# The system

Processes, what they have open, and the clock. Each process has a time from which on it can take its next step,
and the one whose time comes first takes it; a step takes a little time itself. A process that waits for
something is looked at again whenever another one has taken a step.
-/

namespace Diagnostics.Sandbox

/-! ## What is open -/

/-- A pipe: what is in it and has not been read, the oldest in front and the pieces that came later from the last one
back, with the number of octets in all. -/
structure Channel where
  front : Octets := []
  back : List Octets := []
  size : Nat := 0

namespace Channel

/-- A pipe with something in it. -/
def ofOctets (cs : Octets) : Channel := { front := cs, size := cs.length }

/-- Put something in. -/
def put (c : Channel) (cs : Octets) : Channel := { c with back := cs :: c.back, size := c.size + cs.length }

/-- Take out so many octets, or as many as there are. -/
def take (c : Channel) (count : Nat) : Octets × Channel :=
  let (front, back) :=
    if (c.front.take count).length < count then (c.front ++ c.back.reverse.flatten, []) else (c.front, c.back)
  (front.take count, { front := front.drop count, back, size := c.size - count })

end Channel

/-- What an open descriptor leads to: a node, an end of a pipe, or a text that is captured. -/
inductive Target
  | node (n : NodeId)
  | source (channel : Nat)
  | sink (channel : Nat)
  | capture (n : Nat)
  deriving DecidableEq

/-- Something open, with the place where reading and writing go on. -/
structure Description where
  target : Target
  position : Nat := 0
  reads : Bool := false
  writes : Bool := false
  appends : Bool := false

/-- A descriptor of a process; one that is private is closed when the process becomes another program. -/
structure Descriptor where
  number : Nat
  description : Nat
  isPrivate : Bool := false

/-! ## Processes -/

/-- What a process is about. A process that waits may have a time at which it wakes up. -/
inductive Stage
  | ready (time : Nat) (p : Program)
  | waiting (wake : Option Nat) (c : Call) (next : c.Answer → Program)
  | ended (status : WaitStatus)

/-- A process. -/
structure Member where
  id : Nat
  parent : Nat
  group : Nat
  session : Nat
  descriptors : List Descriptor := []
  here : NodeId := 0
  mask : Nat := 0o022
  ignored : List Nat := []
  caught : List Nat := []
  pending : List Nat := []
  halted : Bool := false
  haltSignal : Option Nat := none
  stage : Stage

/-- Everything there is. Times are in microseconds. -/
structure System where
  files : FileTree
  descriptions : Array Description := #[]
  channels : Array Channel := #[]
  captures : Array (List Octets) := #[]
  fifos : List (NodeId × Nat) := []
  members : List Member := []
  clock : Nat := 0
  nextId : Nat := 4242

/-- The programs that there are: each is given its arguments, with its name in front, and the environment. -/
abbrev Library := String → List Octets → Bindings → Program

/-- The most octets that a pipe holds. -/
def channelCapacity : Nat := 65536

/-- So many octets are written to a pipe at once or not at all. -/
def channelWhole : Nat := 4096

namespace System

/-- Change the process with the number of another. -/
def put (s : System) (m : Member) : System :=
  { s with members := s.members.map fun other => if other.id = m.id then m else other }

/-- The process with a number. -/
def member? (s : System) (id : Nat) : Option Member := s.members.find? (·.id = id)

/-- Some process has a description open that satisfies a condition. -/
def anyOpen (s : System) (p : Description → Bool) : Bool :=
  s.members.any fun m => m.descriptors.any fun d => (s.descriptions[d.description]?).any p

/-- Somebody can write into a pipe. -/
def hasWriter (s : System) (channel : Nat) : Bool := s.anyOpen (·.target == .sink channel)

/-- Somebody can read from a pipe. -/
def hasReader (s : System) (channel : Nat) : Bool := s.anyOpen (·.target == .source channel)

/-- Somebody can write to a captured text. -/
def isHeld (s : System) (capture : Nat) : Bool := s.anyOpen (·.target == .capture capture)

end System

namespace Member

/-- What a descriptor leads to. -/
def description? (m : Member) (descriptor : Nat) : Option Nat :=
  (m.descriptors.find? (·.number = descriptor)).map (·.description)

/-- Let a descriptor lead somewhere. -/
def connect (m : Member) (d : Descriptor) : Member :=
  { m with descriptors := d :: m.descriptors.filter (·.number ≠ d.number) }

/-- Close a descriptor. -/
def disconnect (m : Member) (descriptor : Nat) : Member :=
  { m with descriptors := m.descriptors.filter (·.number ≠ descriptor) }

/-- The least number from `least` on that is no descriptor; `count` numbers are tried. -/
def freeFrom (m : Member) (least : Nat) : Nat → Nat
  | 0 => least
  | count + 1 => if (m.description? least).isNone then least else freeFrom m (least + 1) count

/-- The least number from a number on that is no descriptor. -/
def free (m : Member) (least : Nat) : Nat := m.freeFrom least m.descriptors.length

/-- How the process reacts to a signal. -/
def reaction (m : Member) (signal : Nat) : Reaction :=
  if m.ignored.contains signal then .ignore else if m.caught.contains signal then .catch else .normal

end Member

/-! ## Signals -/

/-- The signals that nobody can ignore or catch. -/
def forcedSignals : List Nat := [9, 19]

/-- Signals that do nothing unless they are caught. -/
def harmlessSignals : List Nat := [17, 18, 23, 28]

/-- Signals that stop a process. -/
def stoppingSignals : List Nat := [19, 20, 21, 22]

/-- The answer to a call that a signal cuts short; most calls are not cut short. -/
def interruption? : (c : Call) → Option c.Answer
  | .read .. => some (.error interruptedCall)
  | .write .. => some (.error interruptedCall)
  | .openFile .. => some (.error interruptedCall)
  | .wait .. => some (.error interruptedCall)
  | .sleep _ => some true
  | _ => none

namespace System

/-- A process that catches a signal takes note of it, and the call in which it waits is cut short. -/
def deliver (s : System) (m : Member) (n : Nat) : System :=
  let m := if m.pending.contains n then m else { m with pending := m.pending ++ [n] }
  match m.stage with
  | .waiting _ c next =>
    match interruption? c with
    | some answer => s.put { m with stage := .ready s.clock (next answer) }
    | none => s.put m
  | _ => s.put m

/-- The signal for the end of a child. -/
def childSignal : Nat := 17

/-- Tell a process that catches it that a child has ended. Whoever waits for children learns of it anyway. -/
def noteChild (s : System) (parent : Nat) : System :=
  match s.member? parent with
  | none => s
  | some m =>
    if !m.caught.contains childSignal then s
    else
      match m.stage with
      | .waiting _ (.wait ..) _ =>
        s.put (if m.pending.contains childSignal then m else { m with pending := m.pending ++ [childSignal] })
      | .ended _ => s
      | _ => s.deliver m childSignal

/-- End a process: it closes everything, and its children are left alone. Nobody waits for a child that has been
left alone. -/
def ending (s : System) (m : Member) (status : WaitStatus) : System :=
  let s := (s.put { m with descriptors := [], stage := .ended status, pending := [], halted := false }).noteChild m.parent
  let members := s.members.map fun other => if other.parent = m.id then { other with parent := 0 } else other
  let isLeft (other : Member) : Bool :=
    other.parent = 0 && match other.stage with
      | .ended _ => true
      | _ => false
  { s with members := members.filter fun other => !isLeft other }

/-- Send a signal to a process. -/
def signal (s : System) (m : Member) (n : Nat) : System :=
  match m.stage with
  | .ended _ => s
  | _ =>
    if n = 0 then s
    else
      let reaction := if forcedSignals.contains n then .normal else m.reaction n
      let m := if n = 18 then { m with halted := false, haltSignal := none } else m
      match reaction with
      | .ignore => s.put m
      | .catch => s.deliver m n
      | .normal =>
        if harmlessSignals.contains n then s.put m
        else if stoppingSignals.contains n then s.put { m with halted := true, haltSignal := some n }
        else s.ending m (.killed n)

/-- Send a signal to every process that satisfies a condition. -/
def signalAll (s : System) (p : Member → Bool) (n : Nat) : System :=
  (s.members.filter p).foldl (fun s m =>
    match s.member? m.id with
    | some m => s.signal m n
    | none => s) s

end System

/-! ## Calls -/

/-- What follows from a call: the process goes on after a while, it has to wait, or it is no more. -/
inductive Step
  | go (s : System) (m : Member) (p : Program) (duration : Nat)
  | wait (wake : Option Nat)
  | over (s : System)

namespace System

/-- Microseconds that things take. -/
def callTime : Nat := 2
def forkTime : Nat := 100
def executeTime : Nat := 900

/-- Moving so many octets takes as long. -/
def moveTime (count : Nat) : Nat := callTime + count / 64

/-- The file that a node is. -/
def facts (s : System) (n : NodeId) : Except OsError FileFacts :=
  match s.files.node? n with
  | none => .error .noSuchFile
  | some node =>
    let size := match node.content with
      | .regular octets => octets.size
      | .link target => target.length
      | .directory .. => 4096
      | _ => 0
    .ok { id := n, content := node.content, mode := node.mode, size, names := s.files.nameCount n,
          changed := node.changed }

/-- The description that a descriptor leads to, with its number. -/
def described (s : System) (m : Member) (descriptor : Nat) : Except OsError (Nat × Description) :=
  match m.description? descriptor with
  | none => .error badDescriptor
  | some i =>
    match s.descriptions[i]? with
    | none => .error badDescriptor
    | some d => .ok (i, d)

/-- Add a description. -/
def describe (s : System) (d : Description) : Nat × System :=
  (s.descriptions.size, { s with descriptions := s.descriptions.push d })

/-- Let a new descriptor of a process lead to a description. -/
def connected (s : System) (m : Member) (d : Description) : Nat × System × Member :=
  let (i, s) := s.describe d
  let number := m.free 0
  (number, s, m.connect { number, description := i })

/-- The pipe of a named pipe. -/
def fifoChannel (s : System) (n : NodeId) : Nat × System :=
  match s.fifos.lookup n with
  | some channel => (channel, s)
  | none => (s.channels.size,
      { s with channels := s.channels.push {}, fifos := (n, s.channels.size) :: s.fifos })

/-- Some process waits to open a node in the other direction. -/
def isAwaited (s : System) (n : NodeId) (toRead : Bool) : Bool :=
  s.members.any fun m =>
    match m.stage with
    | .waiting _ (.openFile path mode _) _ =>
      (mode.reads == toRead || mode.writes == !toRead) && (s.files.find m.here path true).toOption == some n
    | _ => false

/-- Read. -/
def reading (s : System) (m : Member) (descriptor count : Nat) (next : Except OsError Octets → Program) : Step :=
  match s.described m descriptor with
  | .error e => .go s m (next (.error e)) callTime
  | .ok (i, d) =>
    if !d.reads then .go s m (next (.error badDescriptor)) callTime
    else
      match d.target with
      | .source channel =>
        let pipe := (s.channels[channel]?).getD {}
        if pipe.size = 0 then if s.hasWriter channel then .wait none else .go s m (next (.ok [])) callTime
        else
          let (cs, pipe) := pipe.take count
          let s := { s with channels := s.channels.set! channel pipe }
          .go s m (next (.ok cs)) (moveTime cs.length)
      | .node n =>
        match s.files.node? n with
        | some { content := .directory .., .. } => .go s m (next (.error .isADirectory)) callTime
        | some { content := .regular octets, .. } =>
          let cs := (octets.extract d.position (d.position + count)).toList
          let s := { s with
            descriptions := s.descriptions.set! i { d with position := d.position + cs.length } }
          .go s m (next (.ok cs)) (moveTime cs.length)
        | some { content := .device .zero, .. } => .go s m (next (.ok (List.replicate count '\x00'))) (moveTime count)
        | some { content := .device .full, .. } => .go s m (next (.ok (List.replicate count '\x00'))) (moveTime count)
        | _ => .go s m (next (.ok [])) callTime
      | _ => .go s m (next (.error badDescriptor)) callTime

/-- Write. Whoever writes into a pipe that nobody reads gets a signal. -/
def writing (s : System) (m : Member) (descriptor : Nat) (cs : Octets) (next : Except OsError Nat → Program) :
    Step :=
  match s.described m descriptor with
  | .error e => .go s m (next (.error e)) callTime
  | .ok (i, d) =>
    if !d.writes then .go s m (next (.error badDescriptor)) callTime
    else
      match d.target with
      | .capture n =>
        .go { s with captures := s.captures.modify n (cs :: ·) } m (next (.ok cs.length)) (moveTime cs.length)
      | .sink channel =>
        if !s.hasReader channel then
          match m.reaction 13 with
          | .normal => .over (s.ending m (.killed 13))
          | .catch => .go s { m with pending := m.pending ++ [13] } (next (.error brokenPipe)) callTime
          | .ignore => .go s m (next (.error brokenPipe)) callTime
        else
          let pipe := (s.channels[channel]?).getD {}
          let room := channelCapacity - pipe.size
          if room = 0 ∨ (cs.length ≤ channelWhole ∧ room < cs.length) then .wait none
          else
            let cs := cs.take room
            .go { s with channels := s.channels.set! channel (pipe.put cs) } m (next (.ok cs.length)) (moveTime cs.length)
      | .node n =>
        match s.files.node? n with
        | some { content := .regular old, .. } =>
          let position := if d.appends then old.size else d.position
          let s := { s with
            files := s.files.writeAt n position cs s.clock
            descriptions := s.descriptions.set! i { d with position := position + cs.length } }
          .go s m (next (.ok cs.length)) (moveTime cs.length)
        | some { content := .device .full, .. } =>
          .go s m (next (if cs.isEmpty then .ok 0 else .error noSpace)) callTime
        | _ => .go s m (next (.ok cs.length)) (moveTime cs.length)
      | _ => .go s m (next (.error badDescriptor)) callTime

/-- Open a file. -/
def opening (s : System) (m : Member) (path : Octets) (mode : OpenMode) (permissions : Nat)
    (next : Except OsError Nat → Program) : Step :=
  let fail (e : OsError) : Step := .go s m (next (.error e)) callTime
  match s.files.spot m.here path (!mode.exclusive) with
  | .error e => fail e
  | .ok spot =>
    let flat (s : System) (n : NodeId) : Step :=
      let (number, s, m) := s.connected m
        { target := .node n, reads := mode.reads, writes := mode.writes, appends := mode.appends }
      .go s m (next (.ok number)) callTime
    match spot.node with
    | none =>
      if !mode.creates then fail .noSuchFile
      else if path.getLast? = some '/' then fail .isADirectory
      else
        let (n, files) := s.files.add
          { content := .regular #[], mode := permissions - (permissions &&& m.mask), changed := s.clock }
        flat { s with files := files.enter spot.directory s.clock spot.name n } n
    | some n =>
      if mode.creates && mode.exclusive then fail .fileExists
      else
        match s.files.node? n with
        | none => fail .noSuchFile
        | some { content := .directory .., .. } =>
          if mode.writes || mode.creates then fail .isADirectory else flat s n
        | some { content, .. } =>
          if mode.directory || path.getLast? = some '/' then fail .notADirectory
          else
            match content with
            | .regular _ =>
              flat (if mode.empties && mode.writes then { s with files := s.files.resize n 0 s.clock } else s) n
            | .program _ => if mode.writes then fail textBusy else flat s n
            | .fifo =>
              let (channel, s) := s.fifoChannel n
              let reach (target : Target) : Step :=
                let (number, s, m) := s.connected m { target, reads := mode.reads, writes := mode.writes }
                .go s m (next (.ok number)) callTime
              if mode.reads && mode.writes then reach (.sink channel)
              else if mode.reads then
                if s.hasWriter channel || s.isAwaited n false then reach (.source channel) else .wait none
              else if s.hasReader channel || s.isAwaited n true then reach (.sink channel) else .wait none
            | .device (.descriptor k) =>
              match s.described m k with
              | .error _ => fail .noSuchFile
              | .ok (_, d) =>
                match d.target with
                | .node k =>
                  let s := if mode.empties && mode.writes then { s with files := s.files.resize k 0 s.clock }
                    else s
                  flat s k
                | target =>
                  let (number, s, m) := s.connected m { target, reads := mode.reads, writes := mode.writes }
                  .go s m (next (.ok number)) callTime
            | _ => flat s n

/-- Wait for a child. -/
def awaiting (s : System) (m : Member) (whose : WaitFor) (blocking : Bool)
    (next : Except OsError (Option (Nat × WaitStatus)) → Program) : Step :=
  let children := s.members.filter fun c => c.parent = m.id && match whose with
    | .any => true
    | .process id => c.id = id
  let ended := children.findSome? fun c =>
    match c.stage with
    | .ended status => some (c.id, status)
    | _ => none
  match ended with
  | some (id, status) =>
    .go { s with members := s.members.filter (·.id ≠ id) } m (next (.ok (some (id, status)))) callTime
  | none =>
    if children.isEmpty then .go s m (next (.error noChild)) callTime
    else if blocking then .wait none
    else .go s m (next (.ok none)) callTime

/-! ## Becoming another program -/

/-- The first line of a file is looked at no further than this. -/
def headLimit : Nat := 256

/-- Interpreters of interpreters are followed this far. -/
def interpreterDepth : Nat := 5

/-- The interpreter in the first line of a file, and its argument; none if there is no such line. A file that
is too short is looked at as if NUL followed. -/
def interpreter? (content : Octets) : Option (Except OsError (Octets × Option Octets)) :=
  let head := (content.take headLimit) ++ List.replicate (headLimit - content.length) '\x00'
  match head with
  | '#' :: '!' :: rest =>
    let isBlank (c : Char) : Bool := c == ' ' || c == '\t'
    let isEnd (c : Char) : Bool := isBlank c || c == '\x00'
    let body := rest.dropLast
    let isWhole := rest.contains '\n' || (body.dropWhile isBlank).any isEnd
    let line := if rest.contains '\n' then rest.takeWhile (· != '\n') else body
    let trimmed := ((line.reverse.dropWhile isBlank).reverse).dropWhile isBlank
    let path := trimmed.takeWhile (!isEnd ·)
    let left := trimmed.dropWhile (!isEnd ·)
    let arg := match left with
      | c :: _ => if isBlank c then some ((left.dropWhile isBlank).takeWhile (· != '\x00')) else none
      | [] => none
    if !isWhole || trimmed.isEmpty then some (.error .execFormat)
    else if path.isEmpty then some (.error .permission)
    else some (.ok (path, arg))
  | _ => none

/-- The program at a path, and its arguments. -/
def load (files : FileTree) (here : NodeId) : Nat → Octets → List Octets → Except OsError (String × List Octets)
  | depth, path, args => do
    let n ← files.find here path true
    match files.node? n with
    | some { content := .program name, .. } => pure (name, args)
    | some { content := .regular octets, mode, .. } =>
      if mode &&& 0o111 = 0 then throw .permission
      match interpreter? (octets.toList) with
      | none => throw .execFormat
      | some (.error e) => throw e
      | some (.ok (interpreter, arg)) =>
        match depth with
        | 0 => throw tooManyLinks
        | depth + 1 => load files here depth interpreter (interpreter :: arg.toList ++ path :: args.drop 1)
    | _ => throw .permission

/-- Become the program at a path. -/
def executing (library : Library) (s : System) (m : Member) (path : Octets) (args : List Octets)
    (environment : Bindings) (next : OsError → Program) : Step :=
  match load s.files m.here interpreterDepth path args with
  | .error e => .go s m (next e) callTime
  | .ok (name, args) =>
    let m := { m with descriptors := m.descriptors.filter (!·.isPrivate), caught := [], pending := [] }
    .go s m (library name args environment) executeTime

/-! ## All calls -/

/-- Change the files; the answer says what is wrong if they cannot be changed. -/
def changing (s : System) (m : Member) (change : Except OsError FileTree) (next : Except OsError Unit → Program) :
    Step :=
  match change with
  | .ok files => .go { s with files } m (next (.ok ())) callTime
  | .error e => .go s m (next (.error e)) callTime

/-- The processes that a number means to `kill`: one, a group, or the group of the caller. -/
def killTargets (s : System) (m : Member) (process : Int) : List Member :=
  s.members.filter fun other =>
    if 0 < process then (other.id : Int) = process
    else if process = 0 then other.group = m.group
    else if process = -1 then other.id ≠ m.id
    else (other.group : Int) = -process

/-- Carry out a call of a process. -/
def perform (library : Library) (s : System) (m : Member) : (c : Call) → (c.Answer → Program) → Step
  | .read descriptor count, next => s.reading m descriptor count next
  | .write descriptor cs, next => s.writing m descriptor cs next
  | .seek descriptor position whence, next =>
    match s.described m descriptor with
    | .error e => .go s m (next (.error e)) callTime
    | .ok (i, d) =>
      match d.target with
      | .node n =>
        let size := match s.facts n with
          | .ok f => f.size
          | .error _ => 0
        let base : Int := if whence = 0 then 0 else if whence = 1 then d.position else size
        if base + position < 0 then .go s m (next (.error invalidArgument)) callTime
        else
          let position := (base + position).toNat
          let s := { s with descriptions := s.descriptions.set! i { d with position } }
          .go s m (next (.ok position)) callTime
      | _ => .go s m (next (.error illegalSeek)) callTime
  | .openFile path mode permissions, next => s.opening m path mode permissions next
  | .close descriptor, next =>
    match m.description? descriptor with
    | none => .go s m (next (.error badDescriptor)) callTime
    | some _ => .go s (m.disconnect descriptor) (next (.ok ())) callTime
  | .duplicate source target, next =>
    match m.description? source with
    | none => .go s m (next (.error badDescriptor)) callTime
    | some description =>
      let m := if source = target then m else m.connect { number := target, description }
      .go s m (next (.ok ())) callTime
  | .duplicateFrom source least, next =>
    match m.description? source with
    | none => .go s m (next (.error badDescriptor)) callTime
    | some description =>
      let number := m.free least
      .go s (m.connect { number, description, isPrivate := true }) (next (.ok number)) callTime
  | .pipe, next =>
    let channel := s.channels.size
    let s := { s with channels := s.channels.push {} }
    let (source, s, m) := s.connected m { target := .source channel, reads := true }
    let (sink, s, m) := s.connected m { target := .sink channel, writes := true }
    .go s m (next (source, sink)) callTime
  | .look path follow, next =>
    .go s m (next (do
      let n ← s.files.find m.here path follow
      match s.files.node? n with
      | some { content := .device (.descriptor k), .. } =>
        if follow then
          match s.described m k with
          | .ok (_, { target := .node n, .. }) => s.facts n
          | .ok _ => pure { id := n, content := .fifo, mode := 0o600, size := 0, names := 1, changed := 0 }
          | .error _ => throw .noSuchFile
        else s.facts n
      | _ => s.facts n)) callTime
  | .lookDescriptor descriptor, next =>
    .go s m (next (do
      let (_, d) ← s.described m descriptor
      match d.target with
      | .node n => s.facts n
      | _ => pure { id := 0, content := .fifo, mode := 0o600, size := 0, names := 1, changed := 0 })) callTime
  | .names path, next =>
    .go s m (next (do
      let n ← s.files.find m.here path true
      if s.files.isDirectory n then pure ((s.files.names n).map (·.1)) else throw .notADirectory)) callTime
  | .readLink path, next =>
    .go s m (next (do
      let n ← s.files.find m.here path false
      match s.files.node? n with
      | some { content := .link target, .. } => pure target
      | _ => throw invalidArgument)) callTime
  | .makeDirectory path permissions, next =>
    s.changing m (s.files.makeDirectory m.here path (permissions - (permissions &&& m.mask)) s.clock) next
  | .removeDirectory path, next => s.changing m (s.files.removeDirectory m.here path s.clock) next
  | .unlink path, next => s.changing m (s.files.unlink m.here path s.clock) next
  | .move source target, next => s.changing m (s.files.move m.here source target s.clock) next
  | .link source target, next => s.changing m (s.files.link m.here source target s.clock) next
  | .symbolicLink target path, next =>
    s.changing m ((s.files.create m.here path
      { content := .link target, mode := 0o777, changed := s.clock }).map (·.2)) next
  | .makeFifo path permissions, next =>
    s.changing m ((s.files.create m.here path
      { content := .fifo, mode := permissions - (permissions &&& m.mask), changed := s.clock }).map (·.2)) next
  | .setMode path mode, next =>
    s.changing m ((s.files.find m.here path true).map fun n =>
      s.files.modify n fun node => { node with mode }) next
  | .setTime path time, next =>
    s.changing m ((s.files.find m.here path true).map fun n =>
      s.files.modify n fun node => { node with changed := time }) next
  | .resize path size, next =>
    s.changing m ((s.files.find m.here path true).map fun n => s.files.resize n size s.clock) next
  | .resizeDescriptor descriptor size, next =>
    s.changing m (do
      match (← s.described m descriptor).2.target with
      | .node n => pure (s.files.resize n size s.clock)
      | _ => throw invalidArgument) next
  | .changeDirectory path, next =>
    match s.files.find m.here path true with
    | .error e => .go s m (next (.error e)) callTime
    | .ok n =>
      if s.files.isDirectory n then .go s { m with here := n } (next (.ok ())) callTime
      else .go s m (next (.error .notADirectory)) callTime
  | .whereAmI, next =>
    .go s m (next (if s.files.isNamed m.here then .ok (s.files.place m.here) else .error .noSuchFile)) callTime
  | .setMask mask, next => .go s { m with mask := mask &&& 0o777 } (next m.mask) callTime
  | .identity, next =>
    .go s m (next { process := m.id, parent := m.parent, group := m.group, session := m.session }) 0
  | .kill process signal, next =>
    let targets := s.killTargets m process
    if targets.isEmpty then .go s m (next (.error noSuchProcess)) callTime
    else
      let m := { m with stage := .ready (s.clock + callTime) (next (.ok ())) }
      let s := (s.put m).signalAll (fun other => targets.any (·.id = other.id)) signal
      match s.member? m.id with
      | none => .over s
      | some m =>
        match m.stage with
        | .ready _ p => .go s m p callTime
        | _ => .over s
  | .react signal reaction, next =>
    let before := m.reaction signal
    let ignored := m.ignored.filter (· ≠ signal)
    let caught := m.caught.filter (· ≠ signal)
    let m := match reaction with
      | .normal => { m with ignored, caught }
      | .ignore => { m with ignored := signal :: ignored, caught }
      | .catch => { m with ignored, caught := signal :: caught }
    .go s m (next before) 0
  | .signals, next => .go s { m with pending := [] } (next m.pending) 0
  | .wait whose blocking, next => s.awaiting m whose blocking next
  | .sleep us, _ => .wait (some (s.clock + us))
  | .clock, next => .go s m (next s.clock) 0
  | .execute path args environment, next => executing library s m path args environment next
  | .newSession, next =>
    if m.group = m.id then .go s m (next (.error notPermitted)) callTime
    else .go s { m with group := m.id, session := m.id } (next (.ok m.id)) callTime
  | .newGroup process group, next =>
    let id := if process = 0 then m.id else process
    let group := if group = 0 then id else group
    if id = m.id then .go s { m with group } (next (.ok ())) callTime
    else
      match s.member? id with
      | none => .go s m (next (.error noSuchProcess)) callTime
      | some other => .go (s.put { other with group }) m (next (.ok ())) callTime
  | .work us, next => .go s m (next ()) us

/-! ## Steps -/

/-- Put the outcome of a call into the system. -/
def settle (s : System) (m : Member) (c : Call) (next : c.Answer → Program) : Step → System
  | .go s m p duration => s.put { m with stage := .ready (s.clock + duration) p }
  | .wait wake => s.put { m with stage := .waiting wake c next }
  | .over s => s

/-- Look whether a process that waits can go on. -/
def poll (library : Library) (s : System) (m : Member) : System :=
  if m.halted then s
  else
    match m.stage with
    | .waiting wake c next =>
      match c, next with
      | .sleep _, next =>
        if wake.all (· ≤ s.clock) then s.put { m with stage := .ready s.clock (next false) } else s
      | c, next =>
        match perform library s m c next with
        | .wait _ => s
        | step => s.settle m c next step
    | _ => s

/-- Look whether any process that waits can go on. -/
def pollAll (library : Library) (s : System) : System :=
  s.members.foldl (fun s m =>
    match m.stage with
    | .waiting .. =>
      match s.member? m.id with
      | some m => s.poll library m
      | none => s
    | _ => s) s

/-- Let a process take a step. -/
def advance (library : Library) (s : System) (m : Member) (p : Program) : System :=
  match p with
  | .exit status => s.ending m (.exited (status % 256))
  | .call c next => s.settle m c next (perform library s m c next)
  | .fork child next =>
    let id := s.nextId
    let copy := { m with id, parent := m.id, pending := [], stage := .ready (s.clock + forkTime) child }
    let m := { m with stage := .ready (s.clock + forkTime / 2) (next id) }
    let s := s.put m
    { s with members := s.members ++ [copy], nextId := id + 1 }

/-- The time at which a process wants to do something next. -/
def Member.dueTime? (m : Member) : Option Nat :=
  if m.halted then none
  else
    match m.stage with
    | .ready time _ => some time
    | .waiting wake _ _ => wake
    | .ended _ => none

/-- The process that is due first. -/
def nextDue (s : System) : Option (Nat × Member) :=
  s.members.foldl (fun best m =>
    match Member.dueTime? m, best with
    | some time, some (least, _) => if time < least then some (time, m) else best
    | some time, none => some (time, m)
    | none, best => best) none

/-- Take steps until a condition holds, until nobody can take a step, or until a time has come; `fuel` bounds
the number of steps. -/
def run (library : Library) (limit : Option Nat) (enough : System → Bool) : Nat → System → System
  | 0, s => s
  | fuel + 1, s =>
    if enough s then s
    else
      match s.nextDue with
      | none =>
        match limit with
        | some time => { s with clock := max s.clock time }
        | none => s
      | some (time, m) =>
        if limit.any (· ≤ time) then { s with clock := max s.clock (limit.getD time) }
        else
          let s := { s with clock := max s.clock time }
          let s :=
            match m.stage with
            | .ready _ p => s.advance library m p
            | _ => s
          run library limit enough fuel (s.pollAll library)

end System

end Diagnostics.Sandbox
