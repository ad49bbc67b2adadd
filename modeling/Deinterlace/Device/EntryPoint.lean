/-!
# Entry points

The operations of a device under the names that appear in errors, in logs and in lists of calls that
are made to fail.
-/
namespace Deinterlace

/-- An operation of a device. -/
inductive EntryPoint
  | getDisplay
  | startDisplay
  | terminate
  | vendorString
  | errorString
  | createConfig
  | destroyConfig
  | createContext
  | destroyContext
  | createSurfaces
  | destroySurfaces
  | createBuffer
  | destroyBuffer
  | mapBuffer
  | unmapBuffer
  | beginPicture
  | renderPicture
  | endPicture
  | deriveImage
  | destroyImage
  | queryFilters
  | queryFilterCaps
  | queryPipelineCaps
  | alloc
  | upload
deriving DecidableEq, Repr

namespace EntryPoint

def name : EntryPoint → String
  | .getDisplay => "vaGetDisplayDRM"
  | .startDisplay => "vaInitialize"
  | .terminate => "vaTerminate"
  | .vendorString => "vaQueryVendorString"
  | .errorString => "vaErrorStr"
  | .createConfig => "vaCreateConfig"
  | .destroyConfig => "vaDestroyConfig"
  | .createContext => "vaCreateContext"
  | .destroyContext => "vaDestroyContext"
  | .createSurfaces => "vaCreateSurfaces"
  | .destroySurfaces => "vaDestroySurfaces"
  | .createBuffer => "vaCreateBuffer"
  | .destroyBuffer => "vaDestroyBuffer"
  | .mapBuffer => "vaMapBuffer"
  | .unmapBuffer => "vaUnmapBuffer"
  | .beginPicture => "vaBeginPicture"
  | .renderPicture => "vaRenderPicture"
  | .endPicture => "vaEndPicture"
  | .deriveImage => "vaDeriveImage"
  | .destroyImage => "vaDestroyImage"
  | .queryFilters => "vaQueryVideoProcFilters"
  | .queryFilterCaps => "vaQueryVideoProcFilterCaps"
  | .queryPipelineCaps => "vaQueryVideoProcPipelineCaps"
  | .alloc => "alloc"
  | .upload => "upload"

def all : List EntryPoint :=
  [.getDisplay, .startDisplay, .terminate, .vendorString, .errorString, .createConfig,
    .destroyConfig, .createContext, .destroyContext, .createSurfaces, .destroySurfaces,
    .createBuffer, .destroyBuffer, .mapBuffer, .unmapBuffer, .beginPicture, .renderPicture,
    .endPicture, .deriveImage, .destroyImage, .queryFilters, .queryFilterCaps,
    .queryPipelineCaps, .alloc, .upload]

def ofName? (s : String) : Option EntryPoint := all.find? (·.name == s)

end EntryPoint

end Deinterlace
