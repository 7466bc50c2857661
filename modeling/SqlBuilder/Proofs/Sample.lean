import SqlBuilder.Schema.Basic

/-!
A small schema at which general statements are tried.
-/

namespace SqlBuilder.Sample

def users : Table :=
  { name := "users"
    columns := [
      { name := "id", type := .int },
      { name := "name", type := .varchar, length := some 20 },
      { name := "nick", type := .varchar, nullable := true },
      { name := "born", type := .date, nullable := true },
      { name := "home", type := .point, nullable := true }] }

def posts : Table :=
  { name := "posts"
    columns := [
      { name := "id", type := .int },
      { name := "title", type := .varchar },
      { name := "author", type := .int, foreignKeys := [⟨"users", "id", "author"⟩] }] }

def schema : Schema := ⟨[users, posts]⟩

end SqlBuilder.Sample
