import Counterpart.Text.Basic

/-! The naming conventions of a project layout: which directories and extensions hold controllers
and views, and which keywords open and close a method. -/

namespace Counterpart

structure Conventions where
  /-- Template extensions in order of preference. -/
  viewExtensions : List Text := [".html.erb", ".html.haml", ".html.slim", ".json.jbuilder",
    ".json.erb", ".xml.builder", ".xml.erb", ".js.erb", ".text.erb"]
  contentTypes : List Text := ["html", "json", "xml", "js", "text"]
  templateEngines : List Text := ["erb", "haml", "slim", "builder", "jbuilder"]
  /-- Directories of sub-applications in order of preference. -/
  multiRootDirs : List Text := ["domains", "apps"]
  appDir : Text := "app"
  viewsDir : Text := "views"
  controllersDir : Text := "controllers"
  controllerSuffix : Text := "_controller"
  sourceExtension : Text := ".rb"
  methodKeyword : Text := "def"
  blockEndKeyword : Text := "end"

namespace Conventions

def standard : Conventions := {}

/-- What the name of every controller file ends in. -/
def controllerFileSuffix (conv : Conventions) : Text :=
  conv.controllerSuffix ++ conv.sourceExtension

def viewsMarker (conv : Conventions) : Text := "/" ++ conv.viewsDir ++ "/"

def controllersMarker (conv : Conventions) : Text := "/" ++ conv.controllersDir ++ "/"

end Conventions
end Counterpart
