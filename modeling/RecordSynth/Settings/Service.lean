import RecordSynth.PackagePath
import RecordSynth.Properties
import RecordSynth.TypeExpr
/-!
# Settings of the service plugin

Where service artifacts go and which base types they extend. Names are checked here, once, so that
building artifacts has nothing left to check in them.
-/

namespace RecordSynth

/-- The settings of the service plugin. -/
structure ServiceSettings where
  /-- Whether the plugin sits out the run. -/
  disable : Bool := false
  /-- The project that receives the artifacts. -/
  targetProject : Option String := none
  targetPackage : Option PackagePath := none
  /-- The interface that every service extends. -/
  basicService : Option TypeExpr := none
  /-- The class that every implementation extends. -/
  basicServiceImpl : Option TypeExpr := none
deriving DecidableEq, Repr

namespace ServiceSettings

/-- The value of a key read by a reader, if the key is filled. -/
def readFilled {α : Type} (p : Properties) (key : String) (read : String → Except Error α) :
    Except Error (Option α) :=
  match p.filled? key with
  | none => .ok none
  | some v => some <$> read v

/-- The name of a type without arguments. -/
def readBase (s : String) : Except Error TypeExpr := TypeExpr.ofName <$> QualifiedName.parse s

/-- The settings that properties give. The first fault among the package, the base interface and the
base class, in this order, is the one reported. -/
def ofProperties (p : Properties) : Except Error ServiceSettings := do
  let targetPackage ← readFilled p "targetPackage" PackagePath.parse
  let basicService ← readFilled p "basicService" readBase
  let basicServiceImpl ← readFilled p "basicServiceImpl" readBase
  return {
    disable := p.isTrue "disable"
    targetProject := p.filled? "targetProject"
    targetPackage, basicService, basicServiceImpl }

end ServiceSettings

end RecordSynth
