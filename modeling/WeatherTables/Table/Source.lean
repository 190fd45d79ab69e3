import WeatherTables.Table.Catalog

/-!
# Sources of cells

Where in a payload the cells of a table are found. A source is a path, from the record or from the
city, and the way in which the value found there is read. The sources of a table are listed in the
order of its columns, apart from them, because a forecast keeps what concerns the city apart from
its records.
-/

set_option autoImplicit false

namespace WeatherTables

/-- The part of a payload that a path starts from. -/
inductive PayloadPart where
  | record
  | city
  deriving DecidableEq, Repr

/-- How a value becomes a cell: as it stands, as a time in seconds or in writing, or as hours
counted in seconds. Of `absent` there is never a value. -/
inductive Interpretation where
  | asGiven
  | secondsSinceEpoch
  | writtenTime
  | secondsAsHours
  | absent
  deriving DecidableEq, Repr

/-- Where the cells of a column come from: the part of the payload, the path in it, and how the
value found there is read. -/
structure Source where
  part : PayloadPart
  path : List String
  interpretation : Interpretation
  deriving DecidableEq, Repr

namespace Source

/-- A value of the record itself. -/
def record (path : List String) : Source :=
  ⟨.record, path, .asGiven⟩

/-- A value of the city, which all records of a payload share. -/
def city (path : List String) : Source :=
  ⟨.city, path, .asGiven⟩

/-- The same value, read in another way. -/
def readAs (source : Source) (interpretation : Interpretation) : Source :=
  ⟨source.part, source.path, interpretation⟩

/-- A source without a value. -/
def nowhere : Source :=
  ⟨.record, [], .absent⟩

/-- The value a source leads to. -/
def value? (source : Source) (record city : Json) : Option Json :=
  match source.part with
  | .record => record.at? source.path
  | .city => city.at? source.path

/-- The sources of current weather. -/
def currentWeather : List Source :=
  [record ["sys", "country"],
    record ["name"],
    record ["id"],
    (record ["dt"]).readAs .secondsSinceEpoch,
    record ["coord", "lon"],
    record ["coord", "lat"],
    record ["weather", "0", "id"],
    record ["weather", "0", "main"],
    record ["weather", "0", "description"],
    record ["weather", "0", "icon"],
    record ["main", "temp"],
    record ["main", "feels_like"],
    record ["main", "temp_min"],
    record ["main", "temp_max"],
    record ["main", "pressure"],
    record ["main", "humidity"],
    record ["main", "sea_level"],
    record ["main", "grnd_level"],
    record ["wind", "speed"],
    record ["wind", "deg"],
    record ["wind", "gust"],
    record ["clouds", "all"],
    record ["rain", "1h"],
    record ["rain", "3h"],
    record ["snow", "1h"],
    record ["snow", "3h"],
    record ["visibility"],
    (record ["sys", "sunrise"]).readAs .secondsSinceEpoch,
    (record ["sys", "sunset"]).readAs .secondsSinceEpoch,
    (record ["timezone"]).readAs .secondsAsHours,
    nowhere]

/-- The sources of forecasts. -/
def forecast : List Source :=
  [city ["country"],
    city ["name"],
    city ["id"],
    (record ["dt_txt"]).readAs .writtenTime,
    city ["coord", "lon"],
    city ["coord", "lat"],
    record ["weather", "0", "id"],
    record ["weather", "0", "main"],
    record ["weather", "0", "description"],
    record ["weather", "0", "icon"],
    record ["main", "temp"],
    record ["main", "feels_like"],
    record ["main", "temp_min"],
    record ["main", "temp_max"],
    record ["main", "pressure"],
    record ["main", "humidity"],
    record ["main", "sea_level"],
    record ["main", "grnd_level"],
    record ["wind", "speed"],
    record ["wind", "deg"],
    record ["pop"],
    record ["clouds", "all"],
    record ["rain", "3h"],
    record ["snow", "3h"],
    record ["visibility"],
    (city ["sunrise"]).readAs .secondsSinceEpoch,
    (city ["sunset"]).readAs .secondsSinceEpoch,
    (city ["timezone"]).readAs .secondsAsHours,
    nowhere]

end Source

/-- The sources of the cells of the method's table, in the order of its columns. -/
def Method.sources : Method → List Source
  | .currentWeather => Source.currentWeather
  | .forecast => Source.forecast

end WeatherTables
