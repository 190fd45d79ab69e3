import WeatherTables.Table.Column

/-!
# The weather tables

The two virtual tables and the method of the weather service behind each. Columns that both tables
have are described once.
-/

set_option autoImplicit false

namespace WeatherTables

namespace Catalog

open Column

/-! ## Columns of both tables -/

/-- The country of the city. -/
def countryCode : Column :=
  varchar "COUNTRY_CODE" 200 "Countrycode of the country"

/-- The name of the city. -/
def cityName : Column :=
  varchar "CITY_NAME" 200 "The name of the city"

/-- The number of the city. -/
def cityId : Column :=
  decimal "CITY_ID" 0 "The ID of the city. Reference: https://openweathermap.org/find?q="

/-- The longitude of the city. -/
def longitude : Column :=
  decimal "LONGITUDE" 4 "The longitude of the city"

/-- The latitude of the city. -/
def latitude : Column :=
  decimal "LATITUDE" 4 "The latitude of the city"

/-- The time of sunrise. -/
def sunrise : Column :=
  timestamp "SUNRISE" "Sunrise time in UTC"

/-- The time of sunset. -/
def sunset : Column :=
  timestamp "SUNSET" "Sunset time in UTC"

/-- The hours by which the city is ahead of UTC. -/
def timezoneShift : Column :=
  decimal "TIMEZONE_SHIFT" 2
    "Hour shift from UTC to timezone of the specific city. E.g. 2 means UTC+2"

/-- The number of the weather condition. -/
def weatherId : Column :=
  decimal "WEATHER_ID" 0
    "The ID of the weather condition. Reference: https://openweathermap.org/weather-conditions#Weather-Condition-Codes-2"

/-- The group of the weather condition. -/
def weatherGroup : Column :=
  varchar "WEATHER_GROUP" 200 "The group name of the weather situation"

/-- The weather condition in words. -/
def weatherDescription : Column :=
  varchar "WEATHER_DESCRIPTION" 2000 "The specific sub-group of weather conditions"

/-- The icon of the weather condition. -/
def weatherIconId : Column :=
  varchar "WEATHER_ICON_ID" 20
    "The weather icon ID. Reference: https://openweathermap.org/weather-conditions"

/-- The temperature. -/
def temperature : Column :=
  decimal "TEMPERATURE" 2 "Temperature in degrees centigrade"

/-- The temperature as it is felt. -/
def feltTemperature : Column :=
  decimal "FELT_TEMPERATURE" 2 "Temperature as humans perceive it in degrees centigrade"

/-- The lowest temperature. -/
def minTemperature : Column :=
  decimal "MIN_TEMPERATURE" 2 "Lowest currently recorded temperature in degrees centigrade"

/-- The highest temperature. -/
def maxTemperature : Column :=
  decimal "MAX_TEMPERATURE" 2 "Highest currently recorded temperature in degrees centigrade"

/-- The air pressure. -/
def pressure : Column :=
  decimal "ATMOSPHERIC_PRESSURE" 2
    "Atmospheric pressure (on the sea level, if there is no sea_level or grnd_level data) in hPa"

/-- The relative humidity. -/
def humidity : Column :=
  decimal "RELATIVE_HUMIDITY" 0 "Relative humidity in %"

/-- The air pressure at sea level. -/
def pressureSeaLevel : Column :=
  decimal "ATMOSPHERIC_PRESSURE_SEA_LEVEL" 2 "Atmospheric pressure on the sea level in hPa"

/-- The air pressure at ground level. -/
def pressureGroundLevel : Column :=
  decimal "ATMOSPHERIC_PRESSURE_GROUND_LEVEL" 2 "Atmospheric pressure on the ground level in hPa"

/-- The speed of the wind. -/
def windSpeed : Column :=
  decimal "WIND_SPEED" 2 "Wind speed in m/s"

/-- The direction of the wind. -/
def windDirection : Column :=
  decimal "WIND_DIRECTION" 0 "Wind direction in meteorological degrees"

/-- The part of the sky that is covered. -/
def cloudiness : Column :=
  decimal "CLOUDINESS" 0 "Cloudiness in % sky coverage"

/-- The rain of three hours. -/
def rain3h : Column :=
  decimal "RAIN_3H" 2 "Rain volume for the last 3 hours in mm"

/-- The snow of three hours. -/
def snow3h : Column :=
  decimal "SNOW_3H" 2 "Snow volume for the last 3 hours in mm"

/-- The visibility. -/
def visibility : Column :=
  decimal "VISIBILITY" 0 "Visibility in m"

/-- A column to filter by; it never has a value. -/
def zip : Column :=
  varchar "ZIP" 200 "Dummy column for filtering API call by ZIP code."

/-! ## Current weather -/

/-- The time of the observation. -/
def dataCollectionTime : Column :=
  timestamp "DATA_COLLECTION_TIME" "The timestamp when the weather data was collected in UTC."

/-- The speed of gusts. -/
def windGust : Column :=
  decimal "WIND_GUST" 2 "Wind gust in m/s"

/-- The rain of one hour. -/
def rain1h : Column :=
  decimal "RAIN_1H" 2 "Rain volume for the last 1 hour in mm"

/-- The snow of one hour. -/
def snow1h : Column :=
  decimal "SNOW_1H" 2 "Snow volume for the last 1 hour in mm"

/-- The table of current weather, one row a payload. -/
def currentWeather : Table :=
  ⟨"CURRENT_WEATHER",
    [countryCode, cityName, cityId, dataCollectionTime, longitude, latitude, weatherId, weatherGroup,
      weatherDescription, weatherIconId, temperature, feltTemperature, minTemperature, maxTemperature,
      pressure, humidity, pressureSeaLevel, pressureGroundLevel, windSpeed, windDirection, windGust,
      cloudiness, rain1h, rain3h, snow1h, snow3h, visibility, sunrise, sunset, timezoneShift, zip]⟩

/-! ## Forecasts -/

/-- The time a forecast is made for. -/
def forecastTime : Column :=
  timestamp "FORECAST_TIME" "The timestamp of the forecast."

/-- The probability of rain or snow. -/
def precipitationProbability : Column :=
  decimal "PERCIPITATION_PROBABILITY" 2 "Probability of precipitation"

/-- The table of forecasts, one row for each record of a payload. -/
def forecast : Table :=
  ⟨"FORECAST",
    [countryCode, cityName, cityId, forecastTime, longitude, latitude, weatherId, weatherGroup,
      weatherDescription, weatherIconId, temperature, feltTemperature, minTemperature, maxTemperature,
      pressure, humidity, pressureSeaLevel, pressureGroundLevel, windSpeed, windDirection,
      precipitationProbability, cloudiness, rain3h, snow3h, visibility, sunrise, sunset, timezoneShift,
      zip]⟩

/-- Every virtual table. -/
def tables : List Table :=
  [currentWeather, forecast]

end Catalog

/-- The methods of the weather service. -/
inductive Method where
  | currentWeather
  | forecast
  deriving DecidableEq, Repr

namespace Method

/-- The name of the method in an address. -/
def name : Method → String
  | .currentWeather => "weather"
  | .forecast => "forecast"

/-- The table that the method fills. -/
def table : Method → Table
  | .currentWeather => Catalog.currentWeather
  | .forecast => Catalog.forecast

/-- Every method. -/
def every : List Method :=
  [.currentWeather, .forecast]

/-- The method with the given name. -/
def ofName? (name : String) : Option Method :=
  every.find? fun m => m.name = name

/-- The method that fills the table with the given name. -/
def ofTableName? (name : String) : Option Method :=
  every.find? fun m => m.table.name = name

end Method

end WeatherTables
