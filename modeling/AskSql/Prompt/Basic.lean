import AskSql.Database.Dialect
import AskSql.Database.Row
import AskSql.Diagnosis
import AskSql.Policy.Basic
import AskSql.Prompt.SchemaText

namespace AskSql

structure Prompt where
  system : String
  user : String
  deriving DecidableEq

def Dialect.tips : Dialect → String
  | .mysql => "MySQL: backticks for identifiers, IFNULL(), DATE_SUB(NOW(), INTERVAL 1 MONTH)"
  | .postgresql =>
    "PostgreSQL: ILIKE for case-insensitive, COALESCE(), NOW() - INTERVAL '1 month'"

namespace Prompt

def generationOrders (s : Schema) (d : Dialect) (p : Policy) : String :=
  let relationships := match s.impliedRelationships with
    | [] => ""
    | rs => "\nRELATIONSHIPS:\n" ++ lines rs
  lines
    ["You are a " ++ d.title ++ " SQL generator. Convert questions to SQL.",
     "",
     "CRITICAL RULES:",
     "1. Use ONLY columns from the schema below. Never invent columns.",
     "2. When unsure which column to use, fall back to COUNT(*) or SELECT *.",
     "3. Check every column name against the schema before using it.",
     "4. " ++ p.promptRule,
     "5. Add LIMIT 100 to non-aggregate SELECT queries.",
     "6. Return ONLY raw SQL. No markdown, no backticks, no explanation.",
     "",
     d.tips,
     "",
     "=== VALID TABLES AND COLUMNS (USE ONLY THESE) ===",
     s.compactText,
     "",
     "=== DETAILED SCHEMA ===",
     s.detailedText,
     relationships,
     "",
     "If a column is not listed above, do not use it."]

def generation (question : String) (s : Schema) (d : Dialect) (p : Policy) : Prompt :=
  { system := generationOrders s d p
    user := "Question: " ++ question ++
      "\n\nGenerate SQL using ONLY columns from the schema. If unsure, use SELECT * or COUNT(*)." }

/-- The columns of each table whose name occurs in the statement. -/
def guidance (failedSql : String) (s : Schema) : List String :=
  (s.tables.filter fun t => contains (lowerCase failedSql) (lowerCase t.name)).map fun t =>
    t.name ++ " has ONLY these columns: " ++ commaList t.columnNames

def invalidColumnNote (error : String) (s : Schema) : String :=
  match invalidColumn? error with
  | none => ""
  | some column =>
    "4. The column \"" ++ column ++ "\" does NOT exist, do not use it\n" ++
      match s.suggestions column 3 with
      | [] => ""
      | names => "Closest existing columns: " ++ commaList names ++ "\n"

def repairOrders (failedSql error : String) (s : Schema) (d : Dialect) : String :=
  "Fix this " ++ d.title ++ " SQL error.\n\nVALID TABLES AND COLUMNS:\n" ++ s.compactText ++ "\n" ++
    (match guidance failedSql s with
      | [] => ""
      | notes => "\nVALID COLUMNS FOR TABLES IN YOUR QUERY:\n" ++ lines notes ++ "\n") ++
    "\nRULES:\n" ++
    "1. Remove or replace anything the error points at with something that EXISTS in the schema\n" ++
    "2. If no matching column exists, use COUNT(*) or SELECT *\n" ++
    "3. Return ONLY the fixed SQL, no explanations\n" ++
    invalidColumnNote error s

def repair (question failedSql error : String) (s : Schema) (d : Dialect) : Prompt :=
  { system := repairOrders failedSql error s d
    user := "Original question: \"" ++ question ++ "\"\n\nFailed SQL:\n" ++ failedSql ++
      "\n\nError: " ++ error ++
      "\n\nFix it using ONLY columns that exist in the schema above." }

def sampleSize : Nat := 5

def shownValue : Option Json → String
  | none => "null"
  | some v => v.plainText

def sample (rows : List Row) (columns : List String) : String :=
  lines ((rows.take sampleSize).map fun r =>
    commaList (columns.map fun c => c ++ ": " ++ shownValue (r.cell? c)))

structure SummaryWords where
  orders : List String
  question : String
  found : String
  columns : String
  data : String
  withheld : String
  nothing : String

def english : SummaryWords :=
  { orders :=
      ["You are a data analyst. Briefly describe the query results in English.",
       "",
       "Rules:",
       "- Maximum 1-2 sentences",
       "- Only facts: number of records and key data",
       "- No introductory phrases and no offers of help"]
    question := "Question"
    found := "Rows found"
    columns := "Columns"
    data := "Data"
    withheld := "Data withheld."
    nothing := "No data." }

def russian : SummaryWords :=
  { orders :=
      ["Ты аналитик данных. Кратко опиши результаты запроса на русском.",
       "",
       "Правила:",
       "- Максимум 1-2 предложения",
       "- Только факты: количество записей и ключевые данные",
       "- Без вводных фраз и без предложений помощи"]
    question := "Вопрос"
    found := "Найдено строк"
    columns := "Колонки"
    data := "Данные"
    withheld := "Данные скрыты."
    nothing := "Данных нет." }

def isRussian (locale : String) : Bool := locale = "ru"

def summary (question : String) (rows : List Row) (columns : List String) (rowCount : Nat)
    (locale : String) : Prompt :=
  let words := if isRussian locale then russian else english
  let shown := sample rows columns
  { system := lines words.orders
    user := lines
      [words.question ++ ": \"" ++ question ++ "\"",
       words.found ++ ": " ++ toString rowCount,
       words.columns ++ ": " ++ commaList columns,
       if shown.isEmpty then if 0 < rowCount then words.withheld else words.nothing
       else words.data ++ ":\n" ++ shown] }

def fallbackSummary (rowCount : Nat) (locale : String) : String :=
  if isRussian locale then "Найдено " ++ toString rowCount ++ " записей."
  else "Found " ++ toString rowCount ++ " records."

end Prompt

def stripFences (text : String) : String :=
  let fence := List.replicate 3 '\x60'
  let clean := Text.trim text.toList
  let clean := ((Text.dropStart? (fence ++ "sql".toList) clean).or
    (Text.dropStart? fence clean)).getD clean
  let clean := (Text.dropEnd? fence clean).getD clean
  String.ofList (Text.trim clean)

end AskSql
