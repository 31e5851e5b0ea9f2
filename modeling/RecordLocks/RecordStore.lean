import RecordLocks.Book
namespace RecordLocks

/-- The shared records. -/
structure RecordStore where
  books : Index ResourceId Book
  deriving DecidableEq

namespace RecordStore

def empty : RecordStore := ⟨∅⟩

/-- Of several books with one id the last counts. -/
def ofBooks (books : List Book) : RecordStore :=
  ⟨Index.ofList (books.map fun book => (book.id, book))⟩

def get (store : RecordStore) (id : ResourceId) : Except AccessError Book :=
  match store.books.get? id with
  | none => .error (.recordNotFound id)
  | some book => .ok book

def contains (store : RecordStore) (id : ResourceId) : Bool := store.books.contains id

def size (store : RecordStore) : Nat := store.books.size

def put (store : RecordStore) (book : Book) : RecordStore := ⟨store.books.insert book.id book⟩

def add (store : RecordStore) (book : Book) : Except AccessError Unit × RecordStore :=
  if store.contains book.id then (.error (.duplicateRecord book.id), store)
  else (.ok (), store.put book)

def update (store : RecordStore) (book : Book) : Except AccessError Unit × RecordStore :=
  if store.contains book.id then (.ok (), store.put book)
  else (.error (.recordNotFound book.id), store)

def remove (store : RecordStore) (id : ResourceId) : Bool × RecordStore :=
  (store.contains id, ⟨store.books.erase id⟩)

/-- A book is stored under its own id. -/
theorem id_ofBooks (books : List Book) {resource : ResourceId} {book : Book}
    (stored : (ofBooks books).books.get? resource = some book) : book.id = resource := by
  have keeps : ∀ (books : List Book) (index : Index ResourceId Book),
      (∀ resource book, index.get? resource = some book → book.id = resource) →
      ∀ resource book,
        ((books.map fun book => (book.id, book)).foldl
          (fun index entry => index.insert entry.1 entry.2) index).get? resource = some book →
        book.id = resource := by
    intro books
    induction books with
    | nil => exact fun index own => own
    | cons first rest ih =>
      intro index own
      apply ih
      intro resource book found
      rw [Index.get?_insert] at found
      split at found
      · rename_i same
        rw [← Option.some.inj found]
        exact same
      · exact own resource book found
  refine keeps books Index.empty ?_ resource book stored
  intro resource book found
  cases found

theorem get_eq_ok {store : RecordStore} {id : ResourceId} {book : Book} :
    store.get id = .ok book ↔ store.books.get? id = some book := by
  rw [get]
  cases store.books.get? id <;> simp

@[simp] theorem get?_put (store : RecordStore) (book : Book) (id : ResourceId) :
    (store.put book).books.get? id = if book.id = id then some book else store.books.get? id :=
  Index.get?_insert store.books book.id id book

end RecordStore

end RecordLocks
