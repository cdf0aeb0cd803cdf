/-! Pictures with the names that they go by. -/

namespace FermRules.Text.Emoji

/-- A picture may take several characters. No name stands in two rows. -/
abbrev PictureTable := List (String × List String)

def PictureTable.find? (table : PictureTable) (name : String) : Option String :=
  (List.find? (fun (_, names) => names.contains name) table).map (·.1)

end FermRules.Text.Emoji
