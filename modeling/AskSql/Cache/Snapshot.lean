import AskSql.Cache.Basic
import AskSql.Json.Printer

namespace AskSql

/-- Where the contents are written: nowhere, or to a file, which may not exist yet. -/
inductive Snapshot
  | off
  | file (text : Option String)
  deriving DecidableEq

namespace Snapshot

def text? : Snapshot → Option String
  | .off => none
  | .file text => text

def write (text : String) : Snapshot → Snapshot
  | .off => .off
  | .file _ => .file (some text)

end Snapshot

namespace Cache

def pairToJson (m : String × CacheEntry) : Json := .arr [.str m.1, m.2.toJson]

def snapshotText (c : Cache) : String := (Json.arr (c.toList.map pairToJson)).compact

def pairReader : Json.Reader (String × CacheEntry)
  | 0, .arr start .. => .error ⟨.tooDeep, start.drop 1⟩
  | levels + 1, .arr _ ns stop =>
    Json.Fields.finish
      (Prod.mk <$> Json.required "0" .string <*> Json.required "1" CacheEntry.reader)
      levels (.list ns stop)
  | _, n => .error (n.mismatch "a tuple of size 2")

def readSnapshot? (text : String) : Option (List (String × CacheEntry)) :=
  (Json.decode (.list pairReader) text.toList).toOption

end Cache

structure SavedCache where
  settings : CacheSettings := {}
  snapshot : Snapshot := .off
  cache : Cache := {}

namespace SavedCache

def save (c : SavedCache) : SavedCache :=
  { c with snapshot := c.snapshot.write c.cache.snapshotText }

def size (c : SavedCache) : Nat := c.cache.size

def openAt (now : Instant) (settings : CacheSettings) (snapshot : Snapshot) : SavedCache :=
  match snapshot.text?.bind Cache.readSnapshot? with
  | none => { settings, snapshot }
  | some l =>
    save { settings, snapshot, cache := (Cache.empty.addAll l).clearExpired settings now }

def reopen (now : Instant) (c : SavedCache) : SavedCache := openAt now c.settings c.snapshot

def get (now : Instant) (key : String) (c : SavedCache) : Option CacheEntry × SavedCache :=
  match c.cache.lookup c.settings now key with
  | .hit e => (some e, c)
  | .expired => (none, save { c with cache := c.cache.erase key })
  | .missing => (none, c)

def set (now : Instant) (key : String) (r : CachedResult) (c : SavedCache) : SavedCache :=
  save { c with cache := c.cache.set c.settings now key r }

def clear (c : SavedCache) : SavedCache := save { c with cache := .empty }

def clearExpired (now : Instant) (c : SavedCache) : SavedCache :=
  save { c with cache := c.cache.clearExpired c.settings now }

end SavedCache

end AskSql
