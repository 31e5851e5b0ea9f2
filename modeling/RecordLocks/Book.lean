import RecordLocks.AccessError
namespace RecordLocks

inductive BookField where
  | title
  | author
  deriving DecidableEq, Repr

structure Book where
  id : ResourceId
  title : String
  author : String
  deriving DecidableEq, Repr

namespace BookField

def all : List BookField := [title, author]

def name : BookField → String
  | title => "Title"
  | author => "Author"

/-- A field is named as it is written, or in lower case. -/
def ofName (name : String) : Except AccessError BookField :=
  if name = "Title" ∨ name = "title" then .ok title
  else if name = "Author" ∨ name = "author" then .ok author
  else .error (.invalidField name)

end BookField

namespace Book

def titled (id : ResourceId) (title : String) : Book := ⟨id, title, ""⟩

def get (book : Book) : BookField → String
  | .title => book.title
  | .author => book.author

def set (book : Book) (field : BookField) (value : String) : Book :=
  match field with
  | .title => { book with title := value }
  | .author => { book with author := value }

@[simp] theorem get_set (book : Book) (field other : BookField) (value : String) :
    (book.set field value).get other = if field = other then value else book.get other := by
  cases field <;> cases other <;> rfl

@[simp] theorem id_set (book : Book) (field : BookField) (value : String) :
    (book.set field value).id = book.id := by
  cases field <;> rfl

end Book

end RecordLocks
