import InterfaceDraft.Extraction.Error

set_option autoImplicit false

namespace InterfaceDraft.Extraction

-- What a task that panics leaves behind.
inductive Payload where
  | text (message : String)
  | other
  -- Of another type too, and it panics again when it is dropped.
  | armed
  deriving DecidableEq, Repr

instance : Coe String Payload := ⟨Payload.text⟩

def Payload.message : Payload → String
  | .text message => message
  | .other | .armed => "unknown panic payload"

inductive Task (α : Type) where
  | returns (value : α)
  | panics (payload : Payload)
  deriving DecidableEq, Repr

abbrev Outcome (α : Type) := Except PoolError α

def Task.outcome {α : Type} (worker : Nat) : Task α → Outcome α
  | .returns value => .ok value
  | .panics payload => .error (.taskPanicked worker payload.message)

-- A worker drops the payload before it sends the outcome, and then no panic is caught any more.
def Task.isArmed {α : Type} : Task α → Bool
  | .panics .armed => true
  | _ => false

inductive Worker (α : Type) where
  | idle
  | busy (task : Task α)
  -- Its end of the stream is dropped, its end of the queue not yet.
  | falling
  | gone
  deriving DecidableEq, Repr

namespace Worker

variable {α : Type}

def isGone : Worker α → Bool
  | .gone => true
  | _ => false

-- Without an end of the stream.
def isSilent : Worker α → Bool
  | .falling | .gone => true
  | _ => false

end Worker

structure Pool (α : Type) where
  isOpen : Bool
  -- The number of accepted tasks.
  submitted : Nat
  -- Accepted tasks that no worker has taken, in order.
  queue : List (Task α)
  workers : List (Worker α)
  -- Outcomes sent and not yet received, in order.
  stream : List (Outcome α)
  received : List (Outcome α)

namespace Pool

variable {α : Type}

def start (size : Nat) : Pool α :=
  ⟨true, 0, [], List.replicate (max 1 size) .idle, [], []⟩

-- More workers than this cannot even be asked for: what is kept of each takes 24 bytes, and memory
-- has room for fewer bytes than half of the numbers of 64 bits.
def sizeLimit : Nat := (UInt64.size / 2 - 1) / 24

-- The first of `count` workers that could not be started, from number `first` on.
def firstRefused (refused : Nat → Option String) (first : Nat) : (count : Nat) → Option PoolError
  | 0 => none
  | count + 1 =>
    match refused first with
    | some reason => some (.spawn first reason)
    | none => firstRefused refused (first + 1) count

def start? (refused : Nat → Option String) (size : Nat) : Except PoolError (Pool α) :=
  match firstRefused refused 0 (max 1 size) with
  | some error => .error error
  | none => .ok (start size)

def size (pool : Pool α) : Nat := pool.workers.length

-- Nobody holds the other end of the queue.
def isDeserted (pool : Pool α) : Bool := pool.workers.all Worker.isGone

-- A closed pool has no end of the queue to send with.
def submit (pool : Pool α) (task : Task α) : Except PoolError (Pool α) :=
  if pool.isOpen && !pool.isDeserted then
    .ok { pool with queue := pool.queue ++ [task], submitted := pool.submitted + 1 }
  else .error .closed

def close (pool : Pool α) : Pool α :=
  { pool with isOpen := false }

inductive Action where
  | take (worker : Nat)
  | finish (worker : Nat)
  | leave (worker : Nat)
  | receive
  deriving DecidableEq, Repr

-- The worker is the last to drop its end of the queue.
def isLast (pool : Pool α) (worker : Nat) : Bool :=
  (pool.workers.set worker .gone).all Worker.isGone

-- What waits in the queue is dropped with the last end that could take it.
def dismiss (pool : Pool α) (worker : Nat) : Pool α :=
  { pool with
    workers := pool.workers.set worker .gone
    queue := if pool.isLast worker then [] else pool.queue }

-- The pool after a move of a worker or of the consumer, if the move is possible.
def act (pool : Pool α) : Action → Option (Pool α)
  | .take worker =>
    match pool.workers[worker]?, pool.queue with
    | some .idle, task :: queue =>
      some { pool with queue := queue, workers := pool.workers.set worker (.busy task) }
    | _, _ => none
  | .finish worker =>
    match pool.workers[worker]? with
    | some (.busy task) =>
      if task.isArmed then some { pool with workers := pool.workers.set worker .falling }
      else
        some { pool with
          workers := pool.workers.set worker .idle
          stream := pool.stream ++ [task.outcome worker] }
    | _ => none
  | .leave worker =>
    match pool.workers[worker]?, pool.queue, pool.isOpen with
    | some .idle, [], false => some (pool.dismiss worker)
    | some .falling, _, _ => some (pool.dismiss worker)
    | _, _, _ => none
  | .receive =>
    match pool.stream with
    | outcome :: stream =>
      some { pool with stream := stream, received := pool.received ++ [outcome] }
    | [] => none

-- Nothing waits in the stream and nobody is left to send.
def hasEnded (pool : Pool α) : Bool :=
  pool.stream.isEmpty && pool.workers.all Worker.isSilent

inductive Step : Pool α → Pool α → Prop
  | act {pool next : Pool α} (action : Action) (h : pool.act action = some next) : Step pool next
  | submit {pool next : Pool α} (task : Task α) (h : pool.submit task = .ok next) : Step pool next
  | close (pool : Pool α) : Step pool pool.close

-- The states that a pool of a given size can come to, under any calls and any order of moves.
inductive Reachable (size : Nat) : Pool α → Prop
  | start : Reachable size (Pool.start size)
  | step {pool next : Pool α} : Reachable size pool → Step pool next → Reachable size next

-- Impossible moves are passed over.
def follow (pool : Pool α) (actions : List Action) : Pool α :=
  actions.foldl (fun pool action => (pool.act action).getD pool) pool

-- The first worker does everything that is left in the queue, all workers leave, and every outcome is
-- received.
def schedule (pool : Pool α) : List Action :=
  (List.replicate pool.queue.length [Action.take 0, Action.finish 0]).flatten ++
    (List.range pool.workers.length).map Action.leave ++
    List.replicate (pool.stream.length + pool.queue.length) Action.receive

-- One schedule under which a pool whose workers do not fall comes to the end of its stream.
def drain (pool : Pool α) : Pool α :=
  pool.close.follow pool.schedule

end Pool

end InterfaceDraft.Extraction
