import AskSql.Digest.Sha256
import AskSql.Policy.Basic

/-!
Keys of the cache.

Each part of a key has its length in front of it, so that no two splits of the same bytes into parts
give the same material.
-/

namespace AskSql.CacheKey

def part (s : String) : List UInt8 :=
  Bytes.littleEndian 8 (Bytes.ofText s).length ++ Bytes.ofText s

def material (connection question fingerprint : String) (p : Policy) : List UInt8 :=
  [connection, question, fingerprint, p.name].flatMap part

def key (connection question fingerprint : String) (p : Policy) : String :=
  Bytes.hex (Sha256.digest (material connection question fingerprint p))

end AskSql.CacheKey
