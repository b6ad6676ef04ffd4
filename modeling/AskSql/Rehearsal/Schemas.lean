import AskSql.Schema

namespace AskSql.Rehearsal

def column (name : String) (defaultValue : Option String := none) : Column :=
  { name, dataType := "text", defaultValue }

def shop : Schema :=
  ⟨[{ name := "users", columns := [column "id", column "name"] },
    { name := "orders", columns := [column "user_id", column "total"] }]⟩

/-- Two tables and two columns under one name, keys that point forward and to no table, and a key of
no columns. -/
def archive : Schema :=
  ⟨[{ name := "Orders"
      columns := [column "id" (some "uuid_of_orders()"), column "ID", column "user_id"]
      primaryKey := some []
      foreignKeys := some [⟨"user_id", "users", "Id"⟩, ⟨"user_id", "clients", "id"⟩] },
    { name := "users", columns := [column "id", column "name" (some "nobody")]
      primaryKey := some ["ID"] },
    { name := "orders", columns := [column "total"], foreignKeys := some [] }]⟩

/-- Keys in other letters than the names: to the table itself, to a later one and to none, and keys of
columns that do not exist. -/
def staff : Schema :=
  ⟨[{ name := "Workers"
      columns := [column "id", column "Boss", column "team"]
      primaryKey := some ["ID", "badge"]
      foreignKeys := some [⟨"BOSS", "workers", "Id"⟩, ⟨"team", "TEAMS", "ID"⟩, ⟨"team", "rooms", "id"⟩,
        ⟨"room", "teams", "id"⟩] },
    { name := "teams", columns := [column "id"], primaryKey := some ["name"] }]⟩

def storage : Schema :=
  ⟨[{ name := "order items", columns := [column "unit price", column "size"] },
    { name := "sales--old", columns := [column "id"] }]⟩

end AskSql.Rehearsal
