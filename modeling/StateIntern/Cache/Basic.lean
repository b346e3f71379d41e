import StateIntern.Cache.Event
import StateIntern.Handle
import StateIntern.Memo
import StateIntern.Tag.Canonical

/-! The cache of an analysis. A state is stored under its canonical text, so states that differ
only in the naming of tags share one instance. -/
namespace StateIntern

inductive CacheError (Fault : Type) where
  /-- The engine could not print the state. -/
  | unprintable (cause : Fault)
  /-- The printed state holds a word that looks like canonical text. -/
  | reservedName (word : String)
  | emptyHandle
  /-- The engine failed while a property of the state under `key` was derived. -/
  | engine (key : String) (cause : Fault)
  | foreignHandle (id : StateId)
  deriving DecidableEq, Repr

def CacheError.message (faultText : Fault → String) : CacheError Fault → String
  | .unprintable cause => "cannot canonicalize state: " ++ faultText cause
  | .reservedName word =>
    "cannot canonicalize state: `" ++ word ++ "` uses the reserved placeholder `#`"
  | .emptyHandle => "query on an empty state handle"
  | .engine key cause => "engine failure on state `" ++ key ++ "`: " ++ faultText cause
  | .foreignHandle id => "Handle " ++ id.text ++ " belongs to another cache"

/-- One memo table for each property. -/
structure Memos where
  text : Memo StateId String
  common : Memo StateId VarSet
  divergent : Memo StateId VarSet

namespace Memos

def empty : Memos := ⟨.empty, .empty, .empty⟩

def table (m : Memos) : (property : Property) → Memo StateId property.Value
  | .text => m.text
  | .common => m.common
  | .divergent => m.divergent

def replace (m : Memos) : (property : Property) → Memo StateId property.Value → Memos
  | .text, table => { m with text := table }
  | .common, table => { m with common := table }
  | .divergent, table => { m with divergent := table }

end Memos

/-- Caches that are used together have different numbers as owners. -/
structure Cache (World State : Type) where
  owner : Nat
  scheme : Scheme
  world : World
  registry : Registry State
  memos : Memos

/-- What an operation answers, the cache after it and what it told meanwhile. -/
structure Outcome (World State Answer : Type) where
  answer : Answer
  cache : Cache World State
  events : List Event

namespace Cache

variable {World State Fault : Type}

def new (owner : Nat) (scheme : Scheme) (world : World) : Cache World State :=
  ⟨owner, scheme, world, .empty, .empty⟩

/-- The registry is given room for two to the power `bits` states. -/
def ofBits (owner : Nat) (scheme : Scheme) (world : World) (bits : Nat) :
    Except CapacityError (Cache World State) :=
  (Registry.ofBits bits).map fun registry =>
    { (new owner scheme world : Cache World State) with registry }

def size (c : Cache World State) : Nat := c.registry.size

def isEmpty (c : Cache World State) : Bool := c.registry.isEmpty

def handle (c : Cache World State) (entry : Entry State) : Handle State := .held c.owner entry

/-- The key of a state: its printed form, normalized. A printed form that could be taken for
canonical text is refused. -/
def canonicalize (engine : Engine World State Fault) (c : Cache World State) (state : State) :
    Outcome World State (Except (CacheError Fault) String) :=
  match engine.print state c.world with
  | (.error cause, world) => ⟨.error (.unprintable cause), { c with world }, []⟩
  | (.ok text, world) =>
    match Text.reservedWord? text with
    | some word => ⟨.error (.reservedName word), { c with world }, []⟩
    | none =>
      let key := c.scheme.normalize text
      ⟨.ok key, { c with world }, [.normalized text key]⟩

/-- The end of an intern: the handle of the entry that the key ended up with. -/
def accept (c : Cache World State) (key : String) (events : List Event)
    (placed : Registry.Placement State) :
    Outcome World State (Except (CacheError Fault) (Handle State)) :=
  let event := if placed.isNew then .stored placed.entry.id key else .reused placed.entry.id
  ⟨.ok (c.handle placed.entry), { c with registry := placed.registry }, events ++ [event]⟩

def intern (engine : Engine World State Fault) (c : Cache World State) (state : State) :
    Outcome World State (Except (CacheError Fault) (Handle State)) :=
  match c.canonicalize engine state with
  | ⟨.error fault, c, events⟩ => ⟨.error fault, c, events⟩
  | ⟨.ok key, c, events⟩ => c.accept key events (c.registry.put key state)

/-- Interns one state after the other and stops at the first that fails. What was interned before
it stays. -/
def internAll (engine : Engine World State Fault) (c : Cache World State) :
    List State → Outcome World State (Except (CacheError Fault) (List (Handle State)))
  | [] => ⟨.ok [], c, []⟩
  | state :: rest =>
    match c.intern engine state with
    | ⟨.error fault, c, events⟩ => ⟨.error fault, c, events⟩
    | ⟨.ok handle, c, events⟩ =>
      let others := c.internAll engine rest
      ⟨others.answer.map (handle :: ·), others.cache, events ++ others.events⟩

/-- The text may be in native form. -/
def lookup (c : Cache World State) (text : String) : Outcome World State (Option (Handle State)) :=
  let key := c.scheme.normalize text
  ⟨(c.registry.find? key).map c.handle, c, [.normalized text key]⟩

def get? (c : Cache World State) (id : StateId) : Option (Handle State) :=
  (c.registry.get? id).map c.handle

def handles (c : Cache World State) : List (Handle State) := c.registry.toList.map c.handle

/-- The stored instance behind a handle, which has to be one of this cache. -/
def resolve (c : Cache World State) : Handle State → Except (CacheError Fault) (Entry State)
  | .empty => .error .emptyHandle
  | .held owner entry =>
    match c.registry.get? entry.id with
    | some own => if owner = c.owner then .ok own else .error (.foreignHandle entry.id)
    | none => .error (.foreignHandle entry.id)

/-- Answers from the memo table. An answer that is missing there is derived and kept, unless the
engine fails. -/
def query (engine : Engine World State Fault) (c : Cache World State) (property : Property)
    (h : Handle State) : Outcome World State (Except (CacheError Fault) property.Value) :=
  match c.resolve h with
  | .error fault => ⟨.error fault, c, []⟩
  | .ok entry =>
    match (c.memos.table property).ask entry.id with
    | (some value, table) => ⟨.ok value, { c with memos := c.memos.replace property table }, []⟩
    | (none, table) =>
      match property.derive engine c.scheme entry c.world with
      | (.error cause, world) =>
        ⟨.error (.engine entry.key cause),
          { c with world, memos := c.memos.replace property table }, []⟩
      | (.ok value, world) =>
        let (kept, table) := table.store entry.id value
        ⟨.ok kept, { c with world, memos := c.memos.replace property table },
          [.derived property entry.id value]⟩

end Cache

end StateIntern
