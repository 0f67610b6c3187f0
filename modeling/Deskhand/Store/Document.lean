import Deskhand.Store.Basic

/-!
# The store as a document

Between two runs of the program the store lies in a file. `Store.document` is the record that is written
there, with the rows in the order in which they came, and `Store.ofDocument` reads it.
-/

namespace Deskhand

namespace Row

/-- A row as a record, column by column. -/
def document (r : Row) : Value :=
  .record [("id", .text r.id), (Column.name.title, .text r.name), (Column.active.title, r.active),
    (Column.blocks.title, .text r.blocks), (Column.lastExecuted.title, r.lastExecuted),
    (Column.color.title, .ofText? r.color), (Column.context.title, .ofText? r.context),
    (Column.created.title, r.created)]

/-- The row of a record. -/
def ofDocument (v : Value) : Row :=
  let fs := v.fields
  { id := fs.text "id", name := fs.text Column.name.title, active := fs.get Column.active.title
    blocks := fs.text Column.blocks.title, lastExecuted := fs.get Column.lastExecuted.title
    color := fs.text? Column.color.title, context := fs.text? Column.context.title
    created := fs.get Column.created.title }

end Row

namespace Store

/-- A store as a record, with the number of ids that were drawn for it. -/
def document (s : Store) (ids : IdSupply) : Value :=
  .record [("scenarios", .list (s.rows.map Row.document)),
    ("settings", .ofOption (fun settings : Settings => .record settings.record) s.saved),
    ("ids", .int ids.drawn)]

/-- The store of a record, and the ids that can be drawn for it. -/
def ofDocument (v : Value) : Store × IdSupply :=
  let fs := v.fields
  ({ rows := (fs.list "scenarios").map Row.ofDocument
     saved := (fs.fields? "settings").bind fun settings => (Settings.withFields {} settings).toOption },
   ⟨fs.nat "ids"⟩)

end Store

end Deskhand
