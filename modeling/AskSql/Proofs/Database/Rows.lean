import AskSql.Database.Adapter
import AskSql.Pipeline.Settings
import AskSql.Rehearsal.Server

namespace AskSql

namespace Adapter

variable {timeoutMs maxRows : Nat} {s : RowStream}

theorem drawn_cons (read : List Row) (cells : Cells) (rest : List Cells) :
    drawn timeoutMs maxRows s read (cells :: rest) =
      if maxRows ≤ read.length + 1 then .ok (read ++ [rowOf s.fields cells])
      else drawn timeoutMs maxRows s (read ++ [rowOf s.fields cells]) rest := by
  rw [drawn, List.length_append, List.length_singleton]

theorem drawn_eq {read : List Row} {rest : List Cells} (h : read.length < max 1 maxRows) :
    drawn timeoutMs maxRows s read rest =
      if read.length + rest.length < max 1 maxRows then
        drawn timeoutMs maxRows s (read ++ rest.map (rowOf s.fields)) []
      else .ok (read ++ (rest.take (max 1 maxRows - read.length)).map (rowOf s.fields)) := by
  induction rest generalizing read with
  | nil => simp [h]
  | cons cells rest ih =>
    have hlength : (read ++ [rowOf s.fields cells]).length = read.length + 1 := by simp
    have hcount : read.length + (cells :: rest).length = read.length + 1 + rest.length := by
      rw [List.length_cons]
      omega
    rw [drawn_cons, hcount]
    by_cases hfull : maxRows ≤ read.length + 1
    · have hroom : max 1 maxRows - read.length = 1 := by omega
      rw [if_pos hfull, if_neg (by omega), hroom]
      rfl
    · have hroom : max 1 maxRows - read.length = max 1 maxRows - (read.length + 1) + 1 := by omega
      rw [if_neg hfull, ih (by omega), hlength, hroom]
      simp

/-- Reading stops at the cap, but not before the first row. -/
theorem readRows_eq : readRows timeoutMs maxRows s =
    if s.rows.length < max 1 maxRows then
      drawn timeoutMs maxRows s (s.rows.map (rowOf s.fields)) []
    else .ok ((s.rows.take (max 1 maxRows)).map (rowOf s.fields)) := by
  have hpos : ([] : List Row).length < max 1 maxRows :=
    Nat.lt_of_lt_of_le Nat.one_pos (Nat.le_max_left ..)
  rw [readRows, drawn_eq hpos, List.length_nil, Nat.zero_add, Nat.sub_zero, List.nil_append,
    List.nil_append]

theorem readRows_of_complete (h : s.ending = .complete) :
    readRows timeoutMs maxRows s = .ok ((s.rows.take (max 1 maxRows)).map (rowOf s.fields)) := by
  rw [readRows_eq]
  split
  next hlt => rw [drawn, h, List.take_of_length_le (Nat.le_of_lt hlt)]
  next => rfl

end Adapter

variable {σ α β : Type} {a : Adapter σ} {q : Statement} {l : Link σ} {stream : RowStream}

theorem Session.bind_of_ok {x : Session σ α} {s s' : σ} {v : α} (h : x s = (.ok v, s'))
    (f : α → Session σ β) : (x >>= f) s = f v s' := by
  simp only [bind, ExceptT.bind, ExceptT.mk, StateT.bind, h]
  rfl

namespace Adapter

theorem connected_eq (h : l.connected = true) (x : Session σ α) :
    connected x l = ((x l.server).1, { l with server := (x l.server).2 }) := by
  obtain ⟨server, _⟩ := l
  cases h
  rfl

theorem exists_describedColumns (server : Server σ) (sql : String) (s : σ) :
    ∃ columns s', describedColumns server sql s = (.ok columns, s') := by
  unfold describedColumns
  rcases server.describe sql s with ⟨_ | fields, s'⟩
  · exact ⟨[], s', rfl⟩
  · exact ⟨_, s', rfl⟩

theorem exists_query_of_readRows {s s' : σ} {rows : List Row}
    (hstream : a.server.plain q.sql s = (stream, s'))
    (hrows : readRows q.timeoutMs q.maxRows stream = .ok rows) :
    ∃ output s', a.query q s = (.ok output, s') ∧ output.rows = rows := by
  unfold query
  simp only [hstream, hrows]
  generalize (if rows.isEmpty = true then [] else stream.fields.map (·.name)) = names
  cases names with
  | nil =>
    obtain ⟨columns, s'', hcolumns⟩ := exists_describedColumns a.server q.sql s'
    refine ⟨{ rows, columns }, s'', ?_, rfl⟩
    simp only [List.isEmpty_nil, if_true, ExceptT.run, hcolumns]
    rfl
  | cons name names => exact ⟨{ rows, columns := name :: names }, s', rfl, rfl⟩

/-- The session is there and takes its time limit, and the server streams its answer to the end. -/
structure Streams (a : Adapter σ) (q : Statement) (l : Link σ) (stream : RowStream) : Prop where
  connected : l.connected = true
  limited : (a.server.command (a.dialect.timeoutStatement q.timeoutMs) l.server).1 = .ok ()
  answer : (a.server.plain q.sql
    (a.server.command (a.dialect.timeoutStatement q.timeoutMs) l.server).2).1 = stream
  complete : stream.ending = .complete

theorem exists_execute_of_readRows (h : a.Streams q l stream) {rows : List Row}
    (hrows : readRows q.timeoutMs q.maxRows stream = .ok rows) :
    ∃ output l', a.execute q l = (.ok output, l') ∧ output.rows = rows := by
  have hset : a.setTimeout q.timeoutMs l.server =
      (.ok (), (a.server.command (a.dialect.timeoutStatement q.timeoutMs) l.server).2) := by
    simp only [setTimeout, h.limited]
    rfl
  obtain ⟨output, s', hquery, houtput⟩ :=
    exists_query_of_readRows (Prod.ext h.answer rfl) hrows
  refine ⟨output, { l with server := s' }, ?_, houtput⟩
  rw [execute, connected_eq h.connected, Session.bind_of_ok hset, hquery]

/-- Of a streamed answer the first rows come back, one row at least and else up to the cap: as many
as the cap allows, unless it allows none. -/
theorem exists_execute_rows (h : a.Streams q l stream) :
    ∃ output l', a.execute q l = (.ok output, l') ∧
      drawn q.timeoutMs q.maxRows stream [] stream.rows = .ok output.rows ∧
      output.rows = (stream.rows.take (max 1 q.maxRows)).map (rowOf stream.fields) ∧
      (output.rows = (stream.rows.take q.maxRows).map (rowOf stream.fields) ↔
        0 < q.maxRows ∨ stream.rows = []) := by
  have hrows : readRows q.timeoutMs q.maxRows stream = _ := readRows_of_complete h.complete
  obtain ⟨output, l', hexecute, houtput⟩ := exists_execute_of_readRows h hrows
  refine ⟨output, l', hexecute, houtput.symm ▸ hrows, houtput, ?_⟩
  rw [houtput]
  constructor
  · intro hfirst
    have hlength := congrArg List.length hfirst
    simp only [List.length_map, List.length_take] at hlength
    rw [← List.length_eq_zero_iff]
    omega
  · rintro (hpos | hnil)
    · rw [Nat.max_eq_right hpos]
    · rw [hnil, List.take_nil, List.take_nil]

end Adapter

def Rehearsal.users : RowStream where
  fields := [⟨"name", "TEXT"⟩]
  rows := [[some "Ann"], [some "Bob"], [none]]

def Rehearsal.adapter (d : Dialect) : Adapter Rehearsal.Log where
  dialect := d
  url := ""
  server := server d
    { rules := [{ pattern := "FROM users", fields := users.fields, rows := users.rows }] }

namespace Adapter

theorem streams_users (d : Dialect) (maxRows : Nat) :
    (Rehearsal.adapter d).Streams ⟨"SELECT name FROM users", 10000, maxRows⟩ ⟨[], true⟩
      Rehearsal.users where
  connected := rfl
  limited := by
    have happlies : Rehearsal.Rule.applies (d.timeoutStatement 10000)
        { pattern := "FROM users", fields := Rehearsal.users.fields
          rows := Rehearsal.users.rows } = false := by
      cases d <;> decide +kernel
    simp [Rehearsal.adapter, Rehearsal.server, happlies, StreamEnd.result]
  answer := by cases d <;> dsimp only <;> decide +kernel
  complete := rfl

theorem exists_execute_rows_two :
    (Rehearsal.adapter .mysql).Streams ⟨"SELECT name FROM users", 10000, 2⟩ ⟨[], true⟩
        Rehearsal.users ∧
      ∃ output l', (Rehearsal.adapter .mysql).execute ⟨"SELECT name FROM users", 10000, 2⟩
          ⟨[], true⟩ = (.ok output, l') ∧
        output.rows = [rowOf Rehearsal.users.fields [some "Ann"],
          rowOf Rehearsal.users.fields [some "Bob"]] := by
  obtain ⟨output, l', hexecute, -, hrows, -⟩ := exists_execute_rows (streams_users .mysql 2)
  exact ⟨streams_users .mysql 2, output, l', hexecute, hrows⟩

/-- The settings take a cap of no rows, and under that cap the first row comes back. -/
theorem exists_execute_rows_ne_take :
    (∃ settings, PipelineSettings.ofEnv [("HUMANQL_ROW_CAP", "0")] = .ok settings ∧
        settings.guards.rowCap = 0) ∧
      (Rehearsal.adapter .postgresql).Streams ⟨"SELECT name FROM users", 10000, 0⟩ ⟨[], true⟩
        Rehearsal.users ∧
      ∃ output l', (Rehearsal.adapter .postgresql).execute ⟨"SELECT name FROM users", 10000, 0⟩
          ⟨[], true⟩ = (.ok output, l') ∧
        output.rows ≠ (Rehearsal.users.rows.take 0).map (rowOf Rehearsal.users.fields) := by
  have hstreams := streams_users .postgresql 0
  obtain ⟨output, l', hexecute, houtput⟩ :=
    exists_execute_of_readRows hstreams (readRows_of_complete hstreams.complete)
  refine ⟨⟨_, rfl, rfl⟩, hstreams, output, l', hexecute, ?_⟩
  rw [houtput]
  exact List.cons_ne_nil _ _

end Adapter

end AskSql
