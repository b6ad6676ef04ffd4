import AskSql.Cache.Entry
import Std.Data.HashMap

/-!
Answered questions, kept for a while.

Entries are found by hashing their keys; beside them stand the keys in the order in which they came
in, which decides what is dropped when there is no room. Reading does not change that order.
-/

namespace AskSql

structure CacheSettings where
  ttlMs : Nat := 300000
  maxEntries : Nat := 20
  ttlNanos : Nat := 0
  deriving DecidableEq

def CacheSettings.ttl (s : CacheSettings) : Nat := s.ttlMs * 1000000 + s.ttlNanos

/-- An entry lives as long as it is not older than the time to live; one that is stamped in the
future has no age yet. -/
def CacheSettings.isExpired (s : CacheSettings) (now : Instant) (e : CacheEntry) : Bool :=
  s.ttl < now.since e.createdAt

def CacheSettings.ttlSeconds (s : CacheSettings) : Nat := s.ttl / Time.nanosPerSecond

structure Cache where
  entries : Std.HashMap String CacheEntry := {}
  order : List String := []

namespace Cache

def empty : Cache := {}

def size (c : Cache) : Nat := c.entries.size

def erase (c : Cache) (key : String) : Cache :=
  { entries := c.entries.erase key, order := c.order.filter (· ≠ key) }

def insert (c : Cache) (key : String) (e : CacheEntry) : Cache :=
  { entries := c.entries.insert key e
    order := if c.entries.contains key then c.order else c.order ++ [key] }

def shrink (most : Nat) (entries : Std.HashMap String CacheEntry) : List String → Cache
  | [] => { entries }
  | oldest :: rest =>
    if most < entries.size then shrink most (entries.erase oldest) rest
    else { entries, order := oldest :: rest }

def set (s : CacheSettings) (now : Instant) (key : String) (r : CachedResult) (c : Cache) : Cache :=
  let c := c.insert key { result := r, createdAt := now }
  shrink s.maxEntries c.entries c.order

inductive Lookup
  | hit (e : CacheEntry)
  | expired
  | missing

def lookup (s : CacheSettings) (now : Instant) (key : String) (c : Cache) : Lookup :=
  match c.entries[key]? with
  | none => .missing
  | some e => if s.isExpired now e then .expired else .hit e

/-- An entry that is found expired is dropped. -/
def get (s : CacheSettings) (now : Instant) (key : String) (c : Cache) : Option CacheEntry × Cache :=
  match c.lookup s now key with
  | .hit e => (some e, c)
  | .expired => (none, c.erase key)
  | .missing => (none, c)

def clearExpired (s : CacheSettings) (now : Instant) (c : Cache) : Cache :=
  let entries := c.entries.filter fun _ e => !s.isExpired now e
  { entries, order := c.order.filter entries.contains }

def toList (c : Cache) : List (String × CacheEntry) :=
  c.order.filterMap fun k => (c.entries[k]?).map (k, ·)

def addAll (c : Cache) (l : List (String × CacheEntry)) : Cache :=
  l.foldl (fun c m => c.insert m.1 m.2) c

end Cache

end AskSql
