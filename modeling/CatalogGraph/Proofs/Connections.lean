import CatalogGraph.Proofs.Handles
import CatalogGraph.Worker.Exchange

/-!
# Namespaces of different connections

What is hashed for a connection determines it: the text is read back as the driver and the
connection string, whatever characters they hold, and the bytes determine the text. So different
connections get one namespace by a `Collision` only, which is a pair of different messages whose
digests begin alike (`connections_apart`). There are more messages than namespaces, so no hash is
free of collisions on all of them; the statements are about the messages of the connections at hand
only. Where these do not collide, the handles of other connections leave the rows of a connection as
they are (`untouched_others`).
-/

namespace CatalogGraph

namespace Worker.Connection

open Cache

variable {c c' : Connection}

/-- The text that is hashed for a connection. -/
def hashedText (c : Connection) : String := (connectionJson c.driver c.connectionString).compact

/-- The bytes of the text that is hashed for a connection. -/
def message (c : Connection) : List UInt8 := c.hashedText.toUTF8.data.toList

/-- The namespace of a connection. -/
def space (c : Connection) : String := connectionNamespace c.driver c.connectionString

theorem connectionJson_inj :
    connectionJson c.driver c.connectionString = connectionJson c'.driver c'.connectionString ↔
      c = c' := by
  unfold connectionJson
  rw [Json.strings_inj]
  cases c
  cases c'
  simp

/-- No quote, comma or backslash that moves from one string to the other gives the same text. -/
theorem hashedText_inj : c.hashedText = c'.hashedText ↔ c = c' := by
  have htidy (c : Connection) :
      Json.Tidy Json.Draft.greatestDepth (connectionJson c.driver c.connectionString) :=
    Json.tidy_strings _ _
  unfold hashedText
  rw [Json.compact_inj (htidy c) (htidy c'), connectionJson_inj]

theorem message_inj : c.message = c'.message ↔ c = c' := by
  unfold message
  rw [Array.toList_inj, ← ByteArray.ext_iff, String.toUTF8_eq_toByteArray,
    String.toUTF8_eq_toByteArray, String.toByteArray_inj, hashedText_inj]

end Worker.Connection

namespace Cache

open Worker (Connection)

variable {c c' : Connection} {db : Database}

/-- The first digits of the digest of a message, as many as a namespace has. -/
def shortDigest (message : List UInt8) : String :=
  String.ofList ((Sha256.digest message).toList.take namespaceWidth)

/-- Two messages that differ, although their digests begin alike. -/
structure Collision (message message' : List UInt8) : Prop where
  differ : message ≠ message'
  alike : shortDigest message = shortDigest message'

theorem space_eq (c : Connection) : c.space = shortDigest c.message := by
  simp only [Connection.space, Connection.message, Connection.hashedText, connectionNamespace,
    shortDigest, Json.hash, Sha256.ofText]

/-- Connections share a namespace only if they are the same one or by a collision. -/
theorem space_eq_iff : c.space = c'.space ↔ c = c' ∨ Collision c.message c'.message := by
  rw [space_eq, space_eq]
  constructor
  · intro halike
    by_cases hsame : c = c'
    · exact .inl hsame
    · exact .inr ⟨fun hmessage => hsame (Connection.message_inj.1 hmessage), halike⟩
  · rintro (rfl | hcollision)
    · rfl
    · exact hcollision.alike

/-- Different connections are written as different texts, so they get different namespaces unless
their messages collide. -/
theorem connections_apart (c c' : Connection) :
    (c.hashedText = c'.hashedText ↔ c = c') ∧
      (c.space = c'.space ↔ c = c' ∨ Collision c.message c'.message) :=
  ⟨Connection.hashedText_inj, space_eq_iff⟩

/-- If quotes were not escaped, these two connections would be written as one text. -/
example : (Connection.mk "a\",\"b" "c").space ≠ (Connection.mk "a" "b\",\"c").space := by
  decide +kernel

/-- Whatever is done with the handles of other connections, the rows of a connection stay as they
are if its message collides with none of theirs. -/
theorem untouched_others (hdb : db.Current) {turns : List (Connection × Turn)}
    (hturns : ∀ turn ∈ turns, turn.1 ≠ c ∧ ¬ Collision turn.1.message c.message) :
    Untouched c.space db (db.takeAll (turns.map fun turn => (turn.1.space, turn.2))).2 := by
  have hspace (other : Connection) : IsNamespace other.space :=
    isNamespace_connectionNamespace other.driver other.connectionString
  refine Untouched.takeAll (hspace c) hdb ?_
  intro turn hturn
  obtain ⟨⟨other, step⟩, hmem, rfl⟩ := List.mem_map.1 hturn
  obtain ⟨hne, hapart⟩ := hturns _ hmem
  exact ⟨hspace other, fun hsame => (space_eq_iff.1 hsame).elim hne hapart⟩

end Cache

end CatalogGraph
