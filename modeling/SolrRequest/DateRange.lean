import SolrRequest.DateText

/-!
# Date ranges

Ranges of the query language between two dates, or from the present day on. An asterisk leaves a
range open.
-/

namespace SolrRequest.DateRange

def wildcard : String := "*"

/-- The format of dates in the index, which are told in universal time. -/
def indexFormat : String := "YYYY-MM-DDTHH:mm:ss"

/-- What the dates of a range are read with where no format is given. -/
def standardInput : String := "YYYY-MM-DDTHH:mm:ss.SSSZ"

def style (input : String) : DateText.Style :=
  { input, output := indexFormat, outputZone := some "UTC", inputZone := none }

def isWildcard (v : Value) : Bool :=
  v.text? == some wildcard

def startBound (host : Host) (input : String) (v : Value) : Except DateError String :=
  DateText.render host (style input) v

/-- The end of a range; an asterisk stays. -/
def endBound (host : Host) (input : String) (v : Value) : Except DateError String :=
  if isWildcard v then .ok wildcard else DateText.render host (style input) v

def bracketed (first last : String) : String :=
  "[" ++ first ++ " TO " ++ last ++ "]"

/-- The range between two bounds; empty where both are blank. -/
def between (host : Host) (input : String) (first last : Value) : Except DateError String :=
  if !first.isWord && !last.isWord then .ok ""
  else do
    let a ← startBound host input first
    let b ← endBound host input last
    return bracketed (a ++ "Z") b

/-- The range from the start of the present day on. -/
def fromToday (host : Host) (input : String) (last : Value) : Except DateError String :=
  if !last.isWord then .ok ""
  else do
    let b ← endBound host input last
    return bracketed "NOW/DAY" b

/-! ## Reports -/

def endReports (host : Host) (input : String) (v : Value) : List Record :=
  if isWildcard v then [] else DateText.renderReports host (style input) v

def betweenReports (host : Host) (input : String) (first last : Value) : List Record :=
  if !first.isWord && !last.isWord then []
  else DateText.renderReports host (style input) first ++
    match startBound host input first with
    | .ok _ => endReports host input last
    | .error _ => []

def fromTodayReports (host : Host) (input : String) (last : Value) : List Record :=
  if last.isWord then endReports host input last else []

end SolrRequest.DateRange
