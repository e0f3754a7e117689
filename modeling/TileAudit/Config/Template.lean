import TileAudit.Fault
import TileAudit.Text.Substitution

/-!
# Templates of the cache configuration

A template is a text with two placeholders: the path of the source raster and the directory of the
cache. Both have to occur. The paths are put in one after the other, the raster path first.
-/

namespace TileAudit
namespace Template

def rasterToken : String := "SYNTHETIC_GEOTIFF_PATH_PLACEHOLDER"

def cacheToken : String := "TILE_CACHE_BASE_DIR"

/-- The lines of the template that is used when no other is given: the synthetic grid, a cache of
files and a cache in a database, with one tileset each. -/
def bundledLines : List String :=
  [
    "<?xml version=\"1.0\" encoding=\"UTF-8\"?>",
    "<mapcache>",
    "    <source name=\"synthetic_source\" type=\"gdal\">",
    "        <data>SYNTHETIC_GEOTIFF_PATH_PLACEHOLDER</data>",
    "    </source>",
    "",
    "    <grid name=\"synthetic_grid\">",
    "        <metadata>",
    "            <title>Synthetic test grid</title>",
    "        </metadata>",
    "        <srs>EPSG:3857</srs>",
    "        <units>m</units>",
    "        <extent>-500000 -500000 500000 500000</extent>",
    "        <size>256 256</size>",
    "        <resolutions>1000 500</resolutions>",
    "        <origin>top-left</origin>",
    "    </grid>",
    "",
    "    <cache name=\"disk\" type=\"disk\">",
    "        <base>TILE_CACHE_BASE_DIR/disk</base>",
    "    </cache>",
    "",
    "    <cache name=\"sqlite\" type=\"sqlite3\">",
    "        <dbfile>TILE_CACHE_BASE_DIR/cache.sqlite</dbfile>",
    "    </cache>",
    "",
    "    <format name=\"PNG_RGB\" type=\"PNG\">",
    "        <compression>fast</compression>",
    "    </format>",
    "",
    "    <tileset name=\"disk-tileset\">",
    "        <source>synthetic_source</source>",
    "        <cache>disk</cache>",
    "        <grid>synthetic_grid</grid>",
    "        <format>PNG_RGB</format>",
    "        <metatile>1 1</metatile>",
    "        <metabuffer>0</metabuffer>",
    "    </tileset>",
    "",
    "    <tileset name=\"sqlite-tileset\">",
    "        <source>synthetic_source</source>",
    "        <cache>sqlite</cache>",
    "        <grid>synthetic_grid</grid>",
    "        <format>PNG_RGB</format>",
    "        <metatile>1 1</metatile>",
    "        <metabuffer>0</metabuffer>",
    "    </tileset>",
    "",
    "    <default_format>PNG_RGB</default_format>",
    "    <service type=\"wms\" enabled=\"false\"/>",
    "    <service type=\"wmts\" enabled=\"false\"/>",
    "    <errors>report</errors>",
    "    <locker type=\"disk\">",
    "        <directory>TILE_CACHE_BASE_DIR</directory>",
    "    </locker>",
    "</mapcache>"
  ]

def bundled : String :=
  String.join (bundledLines.map fun line => line ++ "\n")

def fill (token value text : String) : String :=
  String.ofList (Text.substitute token.toList value.toList text.toList)

def holds (template token : String) : Bool :=
  Text.hasToken token.toList template.toList

def render (template rasterPath cacheBase : String) : Except ConfigFault String :=
  if !holds template rasterToken then .error (.missingPlaceholder rasterToken)
  else if !holds template cacheToken then .error (.missingPlaceholder cacheToken)
  else .ok (fill cacheToken cacheBase (fill rasterToken rasterPath template))

end Template
end TileAudit
