/-! # Layout options

How deep lines are indented.
-/

namespace ModelScribe

/-- What one level of indentation is made of. -/
structure LayoutOptions where
  /-- A level is a tab, whatever the width. -/
  tabIndent : Bool
  /-- The number of spaces of a level otherwise. -/
  width : Nat
  deriving DecidableEq

namespace LayoutOptions

/-- Four spaces a level. -/
def standard : LayoutOptions := ⟨false, 4⟩

/-- The characters of one level. -/
def indentUnit (options : LayoutOptions) : List Char :=
  if options.tabIndent then ['\t'] else List.replicate options.width ' '

end LayoutOptions

/-- The choices of indentation among the settings. -/
inductive IndentStyle
  | tabs
  | twoSpaces
  | fourSpaces
  deriving DecidableEq

namespace IndentStyle

/-- The layout of a choice. -/
def options : IndentStyle → LayoutOptions
  | tabs => ⟨true, 4⟩
  | twoSpaces => ⟨false, 2⟩
  | fourSpaces => ⟨false, 4⟩

/-- The name of a choice among the settings. -/
def keyword : IndentStyle → String
  | tabs => "tabs"
  | twoSpaces => "2"
  | fourSpaces => "4"

/-- The name of a choice in reports. -/
def label : IndentStyle → String
  | tabs => "Tabs"
  | twoSpaces => "TwoSpaces"
  | fourSpaces => "FourSpaces"

/-- All choices. -/
def all : List IndentStyle := [tabs, twoSpaces, fourSpaces]

end IndentStyle

end ModelScribe
