import AskSql.Pipeline.Run
import AskSql.Rehearsal.Schemas
import AskSql.Rehearsal.Script

namespace AskSql.Rehearsal

def pipeline (s : PipelineSettings) : Pipeline ModelScript DatabaseScript History :=
  { settings := s, model, database, recorder := some (History.recorder 0 "") }

def desk (generator repairer : Script String) (execute : Script QueryOutput) :
    Desk ModelScript DatabaseScript History :=
  { model := { generator, repairer, summarizer := [] }, database := { execute }, history := {} }

def request : Request :=
  { connection := "app"
    question := "Who are the users?"
    schema := ⟨[{ name := "users", columns := [{ name := "name", dataType := "text" }] }]⟩
    dialect := .postgresql
    anonymize := true }

def occasion : Occasion := { asked := .epoch, answered := .epoch }

def repaired : Desk ModelScript DatabaseScript History :=
  desk [⟨.ok "SELECT nme FROM table_1", .none⟩] [⟨.ok "SELECT col_1 FROM table_1;", .none⟩]
    [⟨.error (.execution "no such column: nme"), .none⟩, ⟨.ok {}, .none⟩]

def unrepaired : Desk ModelScript DatabaseScript History :=
  desk [⟨.ok "SELECT nme FROM table_1", .none⟩]
    [⟨.ok "DROP TABLE table_1", .none⟩, ⟨.ok "SELECT nam FROM table_1", .none⟩]
    [⟨.error (.execution "no such column: nme"), .none⟩,
     ⟨.error (.execution "no such column: nam"), .none⟩]

/-- A statement of which the database complains with the name of its table in quotes. -/
def complained : Desk ModelScript DatabaseScript History :=
  desk [⟨.ok "SELECT col_1 FROM table_1", .none⟩] [⟨.ok "SELECT 1 FROM table_1", .none⟩]
    [⟨.error (.execution "relation \"shop.users\" does not exist"), .none⟩, ⟨.ok {}, .none⟩]

def found (key : String) (cells : String × String) : Desk ModelScript DatabaseScript History :=
  let row (cell : String) : Row := .ofList [(key, .str cell)]
  { desk [⟨.ok "SELECT nme FROM table_1", .none⟩] [⟨.ok "SELECT col_1 FROM table_1;", .none⟩]
      [⟨.error (.execution "no such column: nme"), .none⟩,
       ⟨.ok ⟨[row cells.1, row cells.2], ["name"]⟩, .none⟩] with
    model.summarizer := [⟨.ok .echo, .none⟩] }

def confidential : Request := { request with privacy := true }

def stocked (text summary : String) : Desk ModelScript DatabaseScript History :=
  { model := { generator := [⟨.ok text, .none⟩], repairer := [],
               summarizer := [⟨.ok (.text summary), .none⟩] }
    database := {}
    history := {}
    cache := some {} }

def asking : Desk ModelScript DatabaseScript History :=
  stocked "SELECT col_1 FROM table_1" "Nobody."

def deleting : Desk ModelScript DatabaseScript History := stocked "DELETE FROM users" "Done."

def shopping : Request := { request with question := "What has been sold?", schema := shop }

def answering (text : String) (output : QueryOutput) (summary : String) :
    Desk ModelScript DatabaseScript History :=
  { stocked text summary with database := { execute := [⟨.ok output, .none⟩] }, cache := none }

def sold : Desk ModelScript DatabaseScript History :=
  answering "SELECT table_1.col_2, table_2.col_2 FROM table_1, table_2"
    ⟨[.ofList [("name", .str "Ann"), ("total", .str "7")]], ["name", "total"]⟩ "One sale."

/-- A look at the totals, summed up by the placeholder that they are shown under. -/
def totals : Desk ModelScript DatabaseScript History :=
  answering "SELECT col_2 FROM table_2" ⟨[], ["total"]⟩ "col_2"

/-- A look at the names, summed up with an apostrophe between the tables. -/
def apology : Desk ModelScript DatabaseScript History :=
  answering "SELECT col_2 FROM table_1" ⟨[], ["name"]⟩
    "Table_1 is empty; there aren't any rows in table_2."

def russian : Request := { request with locale := "ru", anonymize := false }

def writing : Request :=
  { request with question := "Remove all users.", readOnly := false, anonymize := false }

def later : Occasion :=
  let moment := (Instant.epoch.after? (CacheSettings.ttl {})).getD .epoch
  { asked := moment, answered := moment }

end AskSql.Rehearsal
