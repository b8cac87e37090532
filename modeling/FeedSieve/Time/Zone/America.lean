import FeedSieve.Time.Zone.Source

/-!
# Zones of the Americas

One row per zone, in the notation of `FeedSieve.Time.Zone.Source`.
-/
namespace FeedSieve.Time.Zone

def america : List Source := [
  ⟨"America/Adak", 44002,
    [⟨-42398, false⟩, ⟨-39600, false⟩, ⟨-36000, true⟩, ⟨-36000, false⟩, ⟨-32400, true⟩],
    [0x07f853e51003dc45c8d104e01ea722006d80b70102c5721102000efe2f01000efff102000efe2f01000efff102,
     0x000f91d701000efff102000efe2f01000efff102000efe2f010005c57102001838af010009cf090200142f1701,
     0x000efff102000f91d701000e6c4902000f91d701000efff102000efe2f01000efff102000efe2f01000efff102,
     0x000efe2f01000efff102000efe2f01000efff102000f91d701000e6c4902000f91d703000eff1004000efe2f03,
     0x000efff104000efe2f03000efff104000efe2f03000d44f9040010b92703000d44f90400114ccf03000cb15104,
     0x00114ccf03000cb1510400114ccf03000d44f9040010b92703000d44f9040010b92703000d44f90400114ccf03,
     0x000cb1510400114ccf03000cb1510400114ccf03000d44f9040010b92703000d44f9040010b92703000d44f904,
     0x0010b92703000d44f90400114ccf03000cb1510400114ccf03000cb1510400114ccf03000d44f9040010b92703,
     0x000d44f9040010b92703000d44f90400114ccf03000cb1510400114ccf03000cb1510400114ccf03000af65904],
    some ⟨⟨-36000, false⟩, ⟨-32400, true⟩, ⟨3, 2, 0, 7200⟩, ⟨11, 1, 0, 7200⟩⟩⟩,
  ⟨"America/Anchorage", 50424,
    [⟨-35976, false⟩, ⟨-36000, false⟩, ⟨-32400, true⟩, ⟨-32400, false⟩, ⟨-28800, true⟩],
    [0x07f853e51003dc44377104e01f5782006d80b70102c5721102000efe2f01000efff102000efe2f01000efff102,
     0x000f91d701000efff102000efe2f01000efff102000efe2f010005c57102001838af010009cf090200142f1701,
     0x000efff102000f91d701000e6c4902000f91d701000efff102000efe2f01000efff102000efe2f01000efff102,
     0x000efe2f01000efff102000efe2f01000efff102000f91d701000e6c4902000f91d703000eff1004000efe2f03,
     0x000efff104000efe2f03000efff104000efe2f03000d44f9040010b92703000d44f90400114ccf03000cb15104,
     0x00114ccf03000cb1510400114ccf03000d44f9040010b92703000d44f9040010b92703000d44f90400114ccf03,
     0x000cb1510400114ccf03000cb1510400114ccf03000d44f9040010b92703000d44f9040010b92703000d44f904,
     0x0010b92703000d44f90400114ccf03000cb1510400114ccf03000cb1510400114ccf03000d44f9040010b92703,
     0x000d44f9040010b92703000d44f90400114ccf03000cb1510400114ccf03000cb1510400114ccf03000af65904],
    some ⟨⟨-32400, false⟩, ⟨-28800, true⟩, ⟨3, 2, 0, 7200⟩, ⟨11, 1, 0, 7200⟩⟩⟩,
  ⟨"America/Araguaina", -11568,
    [⟨-10800, false⟩, ⟨-7200, true⟩],
    [0x0d66cb4b0002164d5b01000edf6c00000f3f3901000ed3ff0001f5a3a101000b34c0000012de78010009f77700,
     0x00141bc101000a0c8f0000141bc1010007698f0001443cc9010006d5e700001bb061010004dba700001430d901,
     0x0007698f00001430d9010009e25f00001430d9010009f777000213e10901000af49700001275e1010009399f00,
     0x0014d999010008a5f7000014c481010008a5f70000155829010009cd470000aabb21010009cd470000139d3101,
     0x000af4970000131ea101000c06cf00001275e101000af49700001275e101000c1be700001275e101000af49700,
     0x00139d3101000a60ef0000155829010008a5f70001234749010009cd4700],
    none⟩,
  ⟨"America/Argentina/Buenos_Aires", -14028,
    [⟨-15408, false⟩, ⟨-14400, false⟩, ⟨-10800, true⟩, ⟨-10800, false⟩, ⟨-7200, true⟩],
    [0x0b25ee8cc002ff5e6e41013e8c31020009f7770100103c5902000b5e0f01001430d9020009e25f01001430d902,
     0x0009e25f01001430d9020009e25f01001430d9020009f77701001430d9020009e25f01001430d9020009e25f01,
     0x001430d9020009e25f01001430d9020009f77701000a0e5102001cc0d701000a0e51020035f7870100062ee902,
     0x0047847f010011a2f10201ff9a370100062ee90200065757010012ca4102000b48f7010012ca4102000b48f701,
     0x0012ca4102000debf701000efff102000f91d701000efff102000efe2f01000efff10300817167040008124f03,
     0x01b70461040007bdef03001275e104000b883f030013098904000af497030013098904000af497030013098904,
     0x000b883f0300c5d6f903000c86400300eb7df00400065757030011e23904000c1be703],
    none⟩,
  ⟨"America/Argentina/Catamarca", -15788,
    [⟨-15408, false⟩, ⟨-14400, false⟩, ⟨-10800, true⟩, ⟨-10800, false⟩, ⟨-7200, true⟩],
    [0x0b25eefac002ff5e0041013e8c31020009f7770100103c5902000b5e0f01001430d9020009e25f01001430d902,
     0x0009e25f01001430d9020009e25f01001430d9020009f77701001430d9020009e25f01001430d9020009e25f01,
     0x001430d9020009e25f01001430d9020009f77701000a0e5102001cc0d701000a0e51020035f7870100062ee902,
     0x0047847f010011a2f10201ff9a370100062ee90200065757010012ca4102000b48f7010012ca4102000b48f701,
     0x0012ca4102000debf701000efff102000f91d701000efff102000efe2f01000efff10300817167040008124f03,
     0x01b70461040007bdef03001275e104000b883f030013098904000af4970100130a6a04000af3b6030013098904,
     0x000b883f0300c5d6f902000c864003007fcc6801000191a903006a1fdf040006575703],
    none⟩,
  ⟨"America/Argentina/Cordoba", -15408,
    [⟨-14400, false⟩, ⟨-10800, true⟩, ⟨-10800, false⟩, ⟨-7200, true⟩],
    [0x0e254cfb00013e8c31010009f7770000103c5901000b5e0f00001430d9010009e25f00001430d9010009e25f00,
     0x001430d9010009e25f00001430d9010009f77700001430d9010009e25f00001430d9010009e25f00001430d901,
     0x0009e25f00001430d9010009f77700000a0e5101001cc0d700000a0e51010035f7870000062ee9010047847f00,
     0x0011a2f10101ff9a370000062ee90100065757000012ca4101000b48f7000012ca4101000b48f7000012ca4101,
     0x000debf700000efff101000f91d700000efff101000efe2f00000efff10200817167030008124f0201b7046103,
     0x0007bdef02001275e103000b883f020013098903000af4970000130a6a03000af3b6020013098903000b883f02,
     0x00c5d6f902000c86400200eb7df00300065757020011e23903000c1be702],
    none⟩,
  ⟨"America/Argentina/Jujuy", -15672,
    [⟨-15408, false⟩, ⟨-14400, false⟩, ⟨-10800, true⟩, ⟨-10800, false⟩, ⟨-7200, true⟩],
    [0x0b25eef38002ff5e0781013e8c31020009f7770100103c5902000b5e0f01001430d9020009e25f01001430d902,
     0x0009e25f01001430d9020009e25f01001430d9020009f77701001430d9020009e25f01001430d9020009e25f01,
     0x001430d9020009e25f01001430d9020009f77701000a0e5102001cc0d701000a0e51020035f7870100062ee902,
     0x0047847f010011a2f10201ff9a370100062ee90200065757010012ca4102000b48f7010012ca4102000b48f701,
     0x0012ca4102000debf701000efff102000f91d701000efff102000efe2f01000efff10300817167040008124f03,
     0x01b70461040007bdef03001275e104000b883f0100139e1202000b883f010010bae904000c1b06030013098904,
     0x000b883f0300c5d6f903000c86400300eb7df0040006575703],
    none⟩,
  ⟨"America/Argentina/La_Rioja", -16044,
    [⟨-15408, false⟩, ⟨-14400, false⟩, ⟨-10800, true⟩, ⟨-10800, false⟩, ⟨-7200, true⟩],
    [0x0b25ef0ac002ff5df041013e8c31020009f7770100103c5902000b5e0f01001430d9020009e25f01001430d902,
     0x0009e25f01001430d9020009e25f01001430d9020009f77701001430d9020009e25f01001430d9020009e25f01,
     0x001430d9020009e25f01001430d9020009f77701000a0e5102001cc0d701000a0e51020035f7870100062ee902,
     0x0047847f010011a2f10201ff9a370100062ee90200065757010012ca4102000b48f7010012ca4102000b48f701,
     0x0012ca4102000debf701000efff102000f91d701000efff102000efe2f01000efff10300817167040008124f03,
     0x01b70461040007bdef03001275e104000b883f030013098904000aca67010005870a03000dacaf04000af49703,
     0x0013098904000b883f0300c5d6f902000c864003007fcc6801000191a903006a1fdf040006575703],
    none⟩,
  ⟨"America/Argentina/Mendoza", -16516,
    [⟨-15408, false⟩, ⟨-14400, false⟩, ⟨-10800, true⟩, ⟨-10800, false⟩, ⟨-7200, true⟩],
    [0x0b25ef284002ff5dd2c1013e8c31020009f7770100103c5902000b5e0f01001430d9020009e25f01001430d902,
     0x0009e25f01001430d9020009e25f01001430d9020009f77701001430d9020009e25f01001430d9020009e25f01,
     0x001430d9020009e25f01001430d9020009f77701000a0e5102001cc0d701000a0e51020035f7870100062ee902,
     0x0047847f010011a2f10201ff9a370100062ee90200065757010012ca4102000b48f7010012ca4102000b48f701,
     0x0012ca4102000debf701000efff102000f91d701000efff102000efe2f01000efff10300817167040008124f03,
     0x01b70461040007bdef03001275e104000b883f0100128bda02000b48f7010012ca4102000b5e0f010013098904,
     0x000b875e0300c5d6f902000c864003007f0e9001000a62b10300620caf040006575703],
    none⟩,
  ⟨"America/Argentina/Rio_Gallegos", -16612,
    [⟨-15408, false⟩, ⟨-14400, false⟩, ⟨-10800, true⟩, ⟨-10800, false⟩, ⟨-7200, true⟩],
    [0x0b25ef2e4002ff5dccc1013e8c31020009f7770100103c5902000b5e0f01001430d9020009e25f01001430d902,
     0x0009e25f01001430d9020009e25f01001430d9020009f77701001430d9020009e25f01001430d9020009e25f01,
     0x001430d9020009e25f01001430d9020009f77701000a0e5102001cc0d701000a0e51020035f7870100062ee902,
     0x0047847f010011a2f10201ff9a370100062ee90200065757010012ca4102000b48f7010012ca4102000b48f701,
     0x0012ca4102000debf701000efff102000f91d701000efff102000efe2f01000efff10300817167040008124f03,
     0x01b70461040007bdef03001275e104000b883f030013098904000af497030013098904000af497030013098904,
     0x000b883f0300c5d6f902000c864003007fcc6801000191a903006a1fdf040006575703],
    none⟩,
  ⟨"America/Argentina/Salta", -15700,
    [⟨-15408, false⟩, ⟨-14400, false⟩, ⟨-10800, true⟩, ⟨-10800, false⟩, ⟨-7200, true⟩],
    [0x0b25eef54002ff5e05c1013e8c31020009f7770100103c5902000b5e0f01001430d9020009e25f01001430d902,
     0x0009e25f01001430d9020009e25f01001430d9020009f77701001430d9020009e25f01001430d9020009e25f01,
     0x001430d9020009e25f01001430d9020009f77701000a0e5102001cc0d701000a0e51020035f7870100062ee902,
     0x0047847f010011a2f10201ff9a370100062ee90200065757010012ca4102000b48f7010012ca4102000b48f701,
     0x0012ca4102000debf701000efff102000f91d701000efff102000efe2f01000efff10300817167040008124f03,
     0x01b70461040007bdef03001275e104000b883f030013098904000af4970100130a6a04000af3b6030013098904,
     0x000b883f0300c5d6f903000c86400300eb7df0040006575703],
    none⟩,
  ⟨"America/Argentina/San_Juan", -16444,
    [⟨-15408, false⟩, ⟨-14400, false⟩, ⟨-10800, true⟩, ⟨-10800, false⟩, ⟨-7200, true⟩],
    [0x0b25ef23c002ff5dd741013e8c31020009f7770100103c5902000b5e0f01001430d9020009e25f01001430d902,
     0x0009e25f01001430d9020009e25f01001430d9020009f77701001430d9020009e25f01001430d9020009e25f01,
     0x001430d9020009e25f01001430d9020009f77701000a0e5102001cc0d701000a0e51020035f7870100062ee902,
     0x0047847f010011a2f10201ff9a370100062ee90200065757010012ca4102000b48f7010012ca4102000b48f701,
     0x0012ca4102000debf701000efff102000f91d701000efff102000efe2f01000efff10300817167040008124f03,
     0x01b70461040007bdef03001275e104000b883f030013098904000aca67010005870a03000dacaf04000af49703,
     0x0013098904000b883f0300c5d6f902000c864003007fb75001000489090300673d97040006575703],
    none⟩,
  ⟨"America/Argentina/San_Luis", -15924,
    [⟨-15408, false⟩, ⟨-14400, false⟩, ⟨-10800, true⟩, ⟨-10800, false⟩, ⟨-7200, true⟩],
    [0x0b25ef034002ff5df7c1013e8c31020009f7770100103c5902000b5e0f01001430d9020009e25f01001430d902,
     0x0009e25f01001430d9020009e25f01001430d9020009f77701001430d9020009e25f01001430d9020009e25f01,
     0x001430d9020009e25f01001430d9020009f77701000a0e5102001cc0d701000a0e51020035f7870100062ee902,
     0x0047847f010011a2f10201ff9a370100062ee90200065757010012ca4102000b48f7010012ca4102000b48f701,
     0x0012ca4102000debf701000efff102000f91d701000efff102000efe2f01000efff10300817167040008124f03,
     0x01b70461040007bdef03001275e104000c5b2f010011b8ea02000b48f701000795810300fafaaf02000c864003,
     0x007fb75001000489090300673d97040001cf2f020003f561010011e23902000c1be7010011e23903],
    none⟩,
  ⟨"America/Argentina/Tucuman", -15652,
    [⟨-15408, false⟩, ⟨-14400, false⟩, ⟨-10800, true⟩, ⟨-10800, false⟩, ⟨-7200, true⟩],
    [0x0b25eef24002ff5e08c1013e8c31020009f7770100103c5902000b5e0f01001430d9020009e25f01001430d902,
     0x0009e25f01001430d9020009e25f01001430d9020009f77701001430d9020009e25f01001430d9020009e25f01,
     0x001430d9020009e25f01001430d9020009f77701000a0e5102001cc0d701000a0e51020035f7870100062ee902,
     0x0047847f010011a2f10201ff9a370100062ee90200065757010012ca4102000b48f7010012ca4102000b48f701,
     0x0012ca4102000debf701000efff102000f91d701000efff102000efe2f01000efff10300817167040008124f03,
     0x01b70461040007bdef03001275e104000b883f030013098904000af4970100130a6a04000af3b6030013098904,
     0x000b883f0300c5d6f902000c864003007fcc68010000fe0103006ab3870400065757030011e23904000c1be703],
    none⟩,
  ⟨"America/Argentina/Ushuaia", -16392,
    [⟨-15408, false⟩, ⟨-14400, false⟩, ⟨-10800, true⟩, ⟨-10800, false⟩, ⟨-7200, true⟩],
    [0x0b25ef208002ff5dda81013e8c31020009f7770100103c5902000b5e0f01001430d9020009e25f01001430d902,
     0x0009e25f01001430d9020009e25f01001430d9020009f77701001430d9020009e25f01001430d9020009e25f01,
     0x001430d9020009e25f01001430d9020009f77701000a0e5102001cc0d701000a0e51020035f7870100062ee902,
     0x0047847f010011a2f10201ff9a370100062ee90200065757010012ca4102000b48f7010012ca4102000b48f701,
     0x0012ca4102000debf701000efff102000f91d701000efff102000efe2f01000efff10300817167040008124f03,
     0x01b70461040007bdef03001275e104000b883f030013098904000af497030013098904000af497030013098904,
     0x000b883f0300c5d6f902000c864003007fa238010001bbd903006a1fdf040006575703],
    none⟩,
  ⟨"America/Asuncion", -13840,
    [⟨-14400, false⟩, ⟨-10800, false⟩, ⟨-10800, true⟩],
    [0x0f7da3610004d13e4b01002d116700002d284102000c855f000011a2f102000c7047000011a2f102000c704700,
     0x0011a2f102000efe2f00000f150902000f134700000f150902000efe2f00000f150902000efe2f00000f150902,
     0x000efe2f00000f150902000f134700000f150902000efe2f00000f150902000efe2f00000f150902000efe2f00,
     0x000f150902000f134700000f150902000efe2f000010d00102000d433700000f150902000efe2f00000f7e8102,
     0x000c1be7000011f75102000e94b700000f2a2102000c4617000011cd2102000c30ff000011e23902000c855f00,
     0x00120c6902000b883f00001275e102000c1be7000011e23902000caf8f0000114e9102000caf8f0000114e9102,
     0x000caf8f000011e23902000efe2f00000c1da9020011e07700000cb1510200114ccf000010274102000c1be700,
     0x0011e23902000c1be7000011e23902000c1be700001275e102000b883f00001275e102000b883f00001275e102,
     0x000e6a8700000e6c4902000f91d700000e6c4902000f91d700000efff102000dd6df000010274102000dd6df00,
     0x0010274102000dd6df000010274102000e6a8700000f939902000e6a8700000f939902000e6a87000010274102,
     0x000dd6df000010274102000dd6df000010274102000e6a8700000f939902000e6a8700000f939902000e6a8700,
     0x000f939902000e6a870000102741020000bcf701],
    none⟩,
  ⟨"America/Bahia", -9244,
    [⟨-10800, false⟩, ⟨-7200, true⟩],
    [0x0d66cab9c002164dec41000edf6c00000f3f3901000ed3ff0001f5a3a101000b34c0000012de78010009f77700,
     0x00141bc101000a0c8f0000141bc1010007698f0001443cc9010006d5e700001bb061010004dba700001430d901,
     0x0007698f00001430d9010009e25f00001430d9010009f777000213e10901000af49700001275e1010009399f00,
     0x0014d999010008a5f7000014c481010008a5f70000155829010009cd47000014c481010009cd4700001430d901,
     0x0009399f0000155829010008124f000015582901000a60ef0000139d3101000a60ef0000139d31010009cd4700,
     0x00139d3101000af4970000131ea101000c06cf00001275e101000af49700001275e101000c1be700001275e101,
     0x000af4970000139d3101000a60ef0000155829010008a5f7000104b58101000af49700],
    none⟩,
  ⟨"America/Bahia_Banderas", -25260,
    [⟨-25200, false⟩, ⟨-21600, false⟩, ⟨-21600, true⟩, ⟨-18000, true⟩],
    [0x0e57928f0000a3a43001006752af00000dae7102000caf8f00000f150901012ecea7000657d12b020010b92700,
     0x000d44f9020010b92700000d44f9020010b92700000d44f90200114ccf00000cb1510200114ccf00000f939902,
     0x000c1be700000f9399020010b92700000d44f9020010b92700000d44f90200114ccf00000cb1510200114ccf00,
     0x000cb1510200114ccf00000cb1510200114ccf00000d44f9020010b92700000d44f9020010b92700000d44f903,
     0x00114bee01000cb1510300114ccf01000cb1510300114ccf01000d44f9030010b92701000d44f9030010b92701,
     0x000d44f9030010b92701000d44f90300114ccf01000cb1510300114ccf01000cb1510300114ccf01000d44f903,
     0x0010b92701000d44f9030010b92701000d44f90300114ccf01000cb1510300114ccf01],
    none⟩,
  ⟨"America/Barbados", -14309,
    [⟨-14400, false⟩, ⟨-10800, true⟩, ⟨-12600, true⟩],
    [0x0d202e9e50039a3226b1000b0b7100001419ff01000a62b1000011f58f02000c9c390003d9b888010009399f00,
     0x0010274101000dd6df000010274101000dd6df000010bae901000d03ef00],
    none⟩,
  ⟨"America/Belem", -11636,
    [⟨-10800, false⟩, ⟨-7200, true⟩],
    [0x0d66cb4f4002164d56c1000edf6c00000f3f3901000ed3ff0001f5a3a101000b34c0000012de78010009f77700,
     0x00141bc101000a0c8f0000141bc1010007698f0001443cc9010006d5e700001bb061010004dba700001430d901,
     0x0007698f00001430d9010009e25f00001430d9010009f777000213e10901000af49700001275e1010009399f00,
     0x0014d999010008a5f700],
    none⟩,
  ⟨"America/Belize", -21168,
    [⟨-21600, false⟩, ⟨-19800, true⟩, ⟨-18000, true⟩],
    [0x0d3211a30000c4062301000a615f8000139cc081000af507800013091881000af507800013091881000af50780,
     0x00139cc081000a615f8000139cc081000a615f8000139cc081000af507800013091881000af507800013091881,
     0x000af507800013091881000af5078000139cc081000a615f8000139cc081000a615f8000139cc081000af50780,
     0x0013091881000af507800013091881000af5078000139cc081000a615f8000139cc081000a615f8000139cc081,
     0x000a615f8000139cc081000af507800013091881000af507800013091881000af5078000139cc081000a615f80,
     0x00139cc081000a615f8000139cc081000af50780000af5e882006864e7000036389101000af507800013091881,
     0x000af507800013091881000af5078000139cc081000a615f8000139cc081000a615f8000139cc081000af50780,
     0x0013091881000af507800013091881000af507800013091881000af5078000139cc081000a615f8000139cc081,
     0x000a615f8000139cc081000af507800013091881000af507800013091881000af5078000139cc081000a615f80,
     0x00139cc081000a615f8000139cc081000a615f8000139cc081000af507800013091881000af507800013091881,
     0x000af5078000139cc081000a615f8000af03908200056f4f00010a7a110200049c5f00],
    none⟩,
  ⟨"America/Boa_Vista", -14560,
    [⟨-14400, false⟩, ⟨-10800, true⟩],
    [0x0d66cc060002164d8101000edf6c00000f3f3901000ed3ff0001f5a3a101000b34c0000012de78010009f77700,
     0x00141bc101000a0c8f0000141bc1010007698f0001443cc9010006d5e700001bb061010004dba700001430d901,
     0x0007698f00001430d9010009e25f00001430d9010009f777000213e10901000af49700001275e1010009399f00,
     0x0014d999010008a5f700015eafe101000c1be700001275e101000092c700],
    none⟩,
  ⟨"America/Bogota", -17776,
    [⟨-18000, false⟩, ⟨-14400, true⟩],
    [0x0d81a95f00091ab1de010017115f00],
    none⟩,
  ⟨"America/Boise", -27889,
    [⟨-28800, false⟩, ⟨-25200, true⟩, ⟨-25200, false⟩, ⟨-21600, true⟩],
    [0x09dc65b400040a22de0100114ccf00000cb1510100114ccf00006ab5490202342c0703006d80b702028975d103,
     0x000efe2f02000efff103000efe2f02000efff103000efe2f02000efff103000efe2f02000efff103000f91d702,
     0x000efff103000efe2f02000efff103000efe2f0200081411030015ea0f020009cf090300142f1702000efff103,
     0x000f91d702000e6c4903000f91d702000efff103000efe2f02000efff103000efe2f02000efff103000efe2f02,
     0x000efff103000efe2f02000efff103000f91d702000e6c4903000f91d702000efff103000efe2f02000efff103,
     0x000efe2f02000efff103000efe2f02000d44f9030010b92702000d44f90300114ccf02000cb1510300114ccf02,
     0x000cb1510300114ccf02000d44f9030010b92702000d44f9030010b92702000d44f90300114ccf02000cb15103,
     0x00114ccf02000cb1510300114ccf02000d44f9030010b92702000d44f9030010b92702000d44f9030010b92702,
     0x000d44f90300114ccf02000cb1510300114ccf02000cb1510300114ccf02000d44f9030010b92702000d44f903,
     0x0010b92702000d44f90300114ccf02000cb1510300114ccf02000cb1510300114ccf02000af65903],
    some ⟨⟨-25200, false⟩, ⟨-21600, true⟩, ⟨3, 2, 0, 7200⟩, ⟨11, 1, 0, 7200⟩⟩⟩,
  ⟨"America/Cambridge_Bay", 0,
    [⟨-25200, false⟩, ⟨-21600, true⟩, ⟨-21600, false⟩, ⟨-18000, true⟩, ⟨-18000, false⟩],
    [0x0e1b50e000029963f101006d80b7000320001901000efe2f00000efff101000efe2f00000efff101000efe2f00,
     0x000efff101000efe2f00000efff101000f91d700000e6c4901000f91d700000efff101000efe2f00000efff101,
     0x000efe2f00000efff101000efe2f00000efff101000efe2f00000efff101000f91d700000e6c4901000f91d700,
     0x000efff101000efe2f00000efff101000efe2f00000efff101000efe2f00000d44f9010010b92700000d44f901,
     0x00114ccf00000cb1510100114ccf00000cb1510100114ccf00000d44f9010010b92700000d44f9010010b92700,
     0x000d44f90100114ccf00000cb1510100114ccf00000cb1510100114ccf00000d44f9010010b92700000d44f901,
     0x0010b92700000d44f9010010b92700000d44f90100114ccf02000cb0700300114ccf04000091e602000c204c01,
     0x00114ccf00000d44f9010010b92700000d44f9010010b92700000d44f90100114ccf00000cb1510100114ccf00,
     0x000cb1510100114ccf00000af65901],
    some ⟨⟨-25200, false⟩, ⟨-21600, true⟩, ⟨3, 2, 0, 7200⟩, ⟨11, 1, 0, 7200⟩⟩⟩,
  ⟨"America/Campo_Grande", -13108,
    [⟨-14400, false⟩, ⟨-10800, true⟩],
    [0x0d66cbab4002164ddbc1000edf6c00000f3f3901000ed3ff0001f5a3a101000b34c0000012de78010009f77700,
     0x00141bc101000a0c8f0000141bc1010007698f0001443cc9010006d5e700001bb061010004dba700001430d901,
     0x0007698f00001430d9010009e25f00001430d9010009f777000213e10901000af49700001275e1010009399f00,
     0x0014d999010008a5f7000014c481010008a5f70000155829010009cd47000014c481010009cd4700001430d901,
     0x0009399f0000155829010008124f000015582901000a60ef0000139d3101000a60ef0000139d31010009cd4700,
     0x00139d3101000af4970000131ea101000c06cf00001275e101000af49700001275e101000c1be700001275e101,
     0x000af4970000139d3101000a60ef0000155829010008a5f700001430d9010009cd4700001582590100090f6f00,
     0x00139d3101000a60ef0000155829010009399f000013098901000a60ef00001430d9010009cd4700001430d901,
     0x000a60ef0000139d3101000a60ef0000139d3101000af4970000139d31010009cd4700001430d9010009cd4700,
     0x001430d901000a60ef0000139d3101000a60ef0000139d3101000a60ef0000139d3101000a60ef000015582901,
     0x0008a5f700],
    none⟩,
  ⟨"America/Cancun", -20824,
    [⟨-21600, false⟩, ⟨-18000, false⟩, ⟨-18000, true⟩, ⟨-14400, true⟩],
    [0x0e5791ae00070d40ba01001ece6d00018efa93020010b92700000d44f9020010b92701000d4418030009cd4702,
     0x0006ecc100000d44f90200114ccf00000cb1510200114ccf00000f939902000c1be700000f9399020010b92700,
     0x000d44f9020010b92700000d44f90200114ccf00000cb1510200114ccf00000cb1510200114ccf00000cb15102,
     0x00114ccf00000d44f9020010b92700000d44f9020010b92700000d44f90200114ccf00000cb1510200114ccf00,
     0x000cb1510200114ccf00000d44f9020010b92700000d44f9020010b927000008141101],
    none⟩,
  ⟨"America/Caracas", -16064,
    [⟨-16060, false⟩, ⟨-16200, false⟩, ⟨-14400, false⟩],
    [0x0a9495ac000299711fc10637ac00c2050c2a628100fca17002],
    none⟩,
  ⟨"America/Cayenne", -12560,
    [⟨-14400, false⟩, ⟨-10800, false⟩],
    [0x0d1b66c100069cf0a301],
    none⟩,
  ⟨"America/Chicago", -21036,
    [⟨-21600, false⟩, ⟨-18000, true⟩, ⟨-18000, false⟩],
    [0x09dc63f200040a22de0100114ccf00000cb1510100114ccf000013098901000b883f00000c1da9010011e07700,
     0x000efff101000c1be7000011e23901000caf8f0000114e9101000caf8f0000114e9101000caf8f0000114e9101,
     0x000caf8f0000114e9101000caf8f000011e23901000caf8f0000114e9101000caf8f0000114e9101000caf8f00,
     0x00114e9101000caf8f0000114e9101000caf8f000011e23901000c1be7000011e23901000caf8f0000114e9101,
     0x000caf8f00000cb151020015566700000d44f901000caf8f0000114e9101000caf8f000011e23901000c1be700,
     0x0011e23901000caf8f0000114e9101000caf8f00000b0b7101006d80b70000114e9101000caf8f0000114e9101,
     0x000caf8f0000114e9101000caf8f0000114e9101000caf8f000011e23901000c1be7000011e23901000caf8f00,
     0x00114e9101000caf8f0000114e9101000caf8f0000114e9101000caf8f0000114e9101000f91d700000efff101,
     0x000efe2f00000efff101000efe2f00000efff101000efe2f00000efff101000efe2f00000efff101000f91d700,
     0x000efff101000efe2f00000efff101000efe2f00000efff101000efe2f00000efff101000efe2f00000efff101,
     0x000f91d700000e6c4901000f91d700000efff101000efe2f00000efff101000efe2f00000efff101000efe2f00,
     0x000efff101000efe2f00000efff101000f91d700000efff101000efe2f00000efff101000efe2f000005c57101,
     0x001838af000009cf090100142f1700000efff101000f91d700000e6c4901000f91d700000efff101000efe2f00,
     0x000efff101000efe2f00000efff101000efe2f00000efff101000efe2f00000efff101000f91d700000e6c4901,
     0x000f91d700000efff101000efe2f00000efff101000efe2f00000efff101000efe2f00000d44f9010010b92700,
     0x000d44f90100114ccf00000cb1510100114ccf00000cb1510100114ccf00000d44f9010010b92700000d44f901,
     0x0010b92700000d44f90100114ccf00000cb1510100114ccf00000cb1510100114ccf00000d44f9010010b92700,
     0x000d44f9010010b92700000d44f9010010b92700000d44f90100114ccf00000cb1510100114ccf00000cb15101,
     0x00114ccf00000d44f9010010b92700000d44f9010010b92700000d44f90100114ccf00000cb1510100114ccf00,
     0x000cb1510100114ccf00000af65901],
    some ⟨⟨-21600, false⟩, ⟨-18000, true⟩, ⟨3, 2, 0, 7200⟩, ⟨11, 1, 0, 7200⟩⟩⟩,
  ⟨"America/Chihuahua", -25460,
    [⟨-25200, false⟩, ⟨-21600, false⟩, ⟨-21600, true⟩, ⟨-18000, true⟩],
    [0x0e57928f0000a3a43001006752af00000dae7102000caf8f00000f15090107869ef1030010b92701000d44f903,
     0x0010b92701000d45da020010b92700000d44f90200114ccf00000cb1510200114ccf00000f939902000c1be700,
     0x000f9399020010b92700000d44f9020010b92700000d44f90200114ccf00000cb1510200114ccf00000cb15102,
     0x00114ccf00000cb1510200114ccf00000d44f9020010b92700000d44f9020010b92700000d44f90200114ccf00,
     0x000cb1510200114ccf00000cb1510200114ccf00000d44f9020010b92700000d44f9020010b92700000d44f902,
     0x0010b92700000d44f90200114ccf00000cb1510200114ccf00000cb1510200114ccf00000d44f9020010b92700,
     0x000d44f9020010b92700000d44f90200114ccf00000cb1510200114ccf01],
    none⟩,
  ⟨"America/Ciudad_Juarez", -25556,
    [⟨-25200, false⟩, ⟨-21600, false⟩, ⟨-21600, true⟩, ⟨-18000, true⟩],
    [0x0e57928f0000a3a43001006752af00000dae7102000caf8f00000f15090107869ef1030010b92701000d44f903,
     0x0010b92701000d45da020010b92700000d44f90200114ccf00000cb1510200114ccf00000f939902000c1be700,
     0x000f9399020010b92700000d44f9020010b92700000d44f90200114ccf00000cb1510200114ccf00000cb15102,
     0x00114ccf00000cb1510200114ccf00000d44f9020010b92700000d44f9020010b92700000b8a010200139b6f00,
     0x000a62b10200139b6f00000a62b10200139b6f00000a62b10200139b6f00000a62b10200139b6f00000a62b102,
     0x00139b6f00000af6590200139b6f00000a62b10200139b6f00000a62b10200139b6f00000a62b10200139b6f00,
     0x000a62b10200139b6f00000af6590200139b6f00000a62b102001307c70100028c2600],
    some ⟨⟨-25200, false⟩, ⟨-21600, true⟩, ⟨3, 2, 0, 7200⟩, ⟨11, 1, 0, 7200⟩⟩⟩,
  ⟨"America/Costa_Rica", -20173,
    [⟨-21600, false⟩, ⟨-18000, true⟩],
    [0x0e3aa56cd006d4e331310008124f000015ebd1010008124f000140090101000d6d6700001090b9010004b17700],
    none⟩,
  ⟨"America/Coyhaique", -17296,
    [⟨-16965, false⟩, ⟨-18000, false⟩, ⟨-14400, false⟩, ⟨-14400, true⟩, ⟨-10800, true⟩,
     ⟨-10800, false⟩],
    [0x0a9495f900025a92835100c2c9e0b00041ffd752001838efb000f5e0605300118c57b1000c9c3903001176ff01,
     0x000c9c3903001176ff01000c9c3903001176ff01000c9c390300118c1701000c9c3902012554df010005079902,
     0x007aafb7030011b72801000433c8020285aaa004000c1be70200139d3104000a60ef020010274104000caf8f02,
     0x00114e9104000caf8f020011e23904000c1be7020010bae904000d4337020011e23904000c1be7020011e23904,
     0x000caf8f0200114e9104000caf8f0200114e9104000caf8f020011e23904000c1be7020011e23904000c1be702,
     0x0011e23904000caf8f0200114e9104000caf8f0200114e9104000caf8f0200114e9104000caf8f020011e23904,
     0x000c1be7020011e23904000c1be7020011e23904000efe2f02000efff104000caf8f0200114e9104000caf8f02,
     0x0011e23904000c1be702000f939904000e6a87020011e23904000caf8f0200114e9104000caf8f0200114e9104,
     0x000caf8f0200114e9104000caf8f020011e23904000c1be7020011e23904000dd6df020010274104000caf8f02,
     0x0010274104000f91d702000f939904000caf8f020011e23904000c1be7020011e23904000c1be7020011e23904,
     0x000c1be7020011e23904000caf8f0200114e9104000caf8f0200114e9104000caf8f020011e23904000c1be702,
     0x0011e23904000dd6df020010274104000caf8f0200114e9104000e6a8702000f93990400114ccf020008a7b904,
     0x0014c2bf02000a62b10400139b6f02000af65904001307c702000af659040032c0df02000780690400167db702,
     0x000780690400167db702000780690400139b6f02000cb1510400114ccf02000cb1510400114ccf02000cb15104,
     0x00114ccf02000d44f9040010b92702000cb151040011e07702000cb15104000fe63705],
    none⟩,
  ⟨"America/Cuiaba", -13460,
    [⟨-14400, false⟩, ⟨-10800, true⟩],
    [0x0d66cbc14002164dc5c1000edf6c00000f3f3901000ed3ff0001f5a3a101000b34c0000012de78010009f77700,
     0x00141bc101000a0c8f0000141bc1010007698f0001443cc9010006d5e700001bb061010004dba700001430d901,
     0x0007698f00001430d9010009e25f00001430d9010009f777000213e10901000af49700001275e1010009399f00,
     0x0014d999010008a5f7000014c481010008a5f70000155829010009cd47000014c481010009cd4700001430d901,
     0x0009399f0000155829010008124f000015582901000a60ef0000139d3101000a60ef0000139d31010009cd4700,
     0x00139d3101000af4970000131ea101000c06cf00001275e101000af49700001275e101000c1be700001275e101,
     0x000af4970000139d3101000a60ef0000155829010008a5f700003380790100090f6f0000139d3101000a60ef00,
     0x00155829010009399f000013098901000a60ef00001430d9010009cd4700001430d901000a60ef0000139d3101,
     0x000a60ef0000139d3101000af4970000139d31010009cd4700001430d9010009cd4700001430d901000a60ef00,
     0x00139d3101000a60ef0000139d3101000a60ef0000139d3101000a60ef0000155829010008a5f700],
    none⟩,
  ⟨"America/Danmarkshavn", -4480,
    [⟨-10800, false⟩, ⟨-7200, true⟩, ⟨0, false⟩],
    [0x0db4289800077cd33501000e67e400000eff1001000eff1000000eff1001000eff1000000eff1001000eff1000,
     0x000eff1001000f92b800000eff1001000eff1000000eff1001000eff1000000eff1001000eff1000000eff1001,
     0x000eff1000000eff1001000eff1000000eff1001000f92b800000eff1001000eff1000000eff1001000eff1000,
     0x000eff1001000eff1000000eff1001000eff1000000eff1001000eff100000082a0a02],
    none⟩,
  ⟨"America/Dawson", -33460,
    [⟨-32400, false⟩, ⟨-28800, true⟩, ⟨-25200, true⟩, ⟨-28800, false⟩, ⟨-25200, false⟩],
    [0x0bd48cf340021323cfc10010257f0000114e9101000d2c5d00029e656301006d80b700024ce42702000f92b800,
     0x00f084a80300c3885902000efe2f03000efff102000efe2f03000efff102000f91d703000e6c4902000f91d703,
     0x000efff102000efe2f03000efff102000efe2f03000efff102000efe2f03000d44f9020010b92703000d44f902,
     0x00114ccf03000cb1510200114ccf03000cb1510200114ccf03000d44f9020010b92703000d44f9020010b92703,
     0x000d44f90200114ccf03000cb1510200114ccf03000cb1510200114ccf03000d44f9020010b92703000d44f902,
     0x0010b92703000d44f9020010b92703000d44f90200114ccf03000cb1510200114ccf03000cb1510200114ccf03,
     0x000d44f9020010b92703000d44f9020010b92703000d44f90200114ccf03000cb1510200114ccf03000cb15102,
     0x00114ccf03000af6590200139b6f03000a62b10200139b6f03000a62b10200139b6f03000af6590200139b6f03,
     0x000a62b10200139b6f03000a62b10200139b6f03000a62b10200139b6f03000a62b10200139b6f03000a62b102,
     0x00139b6f03000af6590200139b6f03000a62b10200139b6f03000a62b10200139b6f03000a62b10200139b6f03,
     0x000a62b102001399ad04],
    none⟩,
  ⟨"America/Dawson_Creek", -28856,
    [⟨-28800, false⟩, ⟨-25200, true⟩, ⟨-25200, false⟩],
    [0x09dffb4b800407b496810010257f0002bce05101006d80b700002f4cb101000caf8f0000114e9101000caf8f00,
     0x00114e9101000caf8f000011e23901000c1be7000011e23901000caf8f0000114e9101000caf8f0000114e9101,
     0x000caf8f0000114e9101000caf8f0000114e9101000caf8f000011e23901000caf8f0000114e9101000caf8f00,
     0x00114e9101000caf8f0000114e9101000caf8f0000114e9101000caf8f000011e23901000c1be7000011e23901,
     0x000efe2f00000efff101000efe2f00000efff101000efe2f00000efff101000f91d700000e6c4901000f91d700,
     0x000efff101000efe2f00000efff101000efe2f00000efff101000efe2f00000efff101000efe2f00000efff101,
     0x000f91d700000efff101000a0c8f02],
    none⟩,
  ⟨"America/Denver", -25196,
    [⟨-25200, false⟩, ⟨-21600, true⟩],
    [0x09dc64d300040a22de0100114ccf00000cb1510100114ccf00000cb151010011e07700000c1da90100049c5f00,
     0x026f966101006d80b700024ce5e901000f91d700000e6c4901000f91d700000efff101000efe2f00000efff101,
     0x000efe2f00000efff101000efe2f00000efff101000efe2f00000efff101000f91d700000efff101000efe2f00,
     0x000efff101000efe2f000005c57101001838af000009cf090100142f1700000efff101000f91d700000e6c4901,
     0x000f91d700000efff101000efe2f00000efff101000efe2f00000efff101000efe2f00000efff101000efe2f00,
     0x000efff101000f91d700000e6c4901000f91d700000efff101000efe2f00000efff101000efe2f00000efff101,
     0x000efe2f00000d44f9010010b92700000d44f90100114ccf00000cb1510100114ccf00000cb1510100114ccf00,
     0x000d44f9010010b92700000d44f9010010b92700000d44f90100114ccf00000cb1510100114ccf00000cb15101,
     0x00114ccf00000d44f9010010b92700000d44f9010010b92700000d44f9010010b92700000d44f90100114ccf00,
     0x000cb1510100114ccf00000cb1510100114ccf00000d44f9010010b92700000d44f9010010b92700000d44f901,
     0x00114ccf00000cb1510100114ccf00000cb1510100114ccf00000af65901],
    some ⟨⟨-25200, false⟩, ⟨-21600, true⟩, ⟨3, 2, 0, 7200⟩, ⟨11, 1, 0, 7200⟩⟩⟩,
  ⟨"America/Detroit", -19931,
    [⟨-21600, false⟩, ⟨-18000, false⟩, ⟨-14400, true⟩],
    [0x0c57f62db00137f71a510324c5c702006d80b701004d4ad102000caf8f0102332eeac2000b4ab541000efff102,
     0x000efe2f0100878c1902000efe2f010005c57102001838af01000efff102000efe2f01000efff102000f91d701,
     0x000e6c4902000f91d701000efff102000efe2f01000efff102000efe2f01000efff102000efe2f01000efff102,
     0x000efe2f01000efff102000f91d701000e6c4902000f91d701000efff102000efe2f01000efff102000efe2f01,
     0x000efff102000efe2f01000d44f9020010b92701000d44f90200114ccf01000cb1510200114ccf01000cb15102,
     0x00114ccf01000d44f9020010b92701000d44f9020010b92701000d44f90200114ccf01000cb1510200114ccf01,
     0x000cb1510200114ccf01000d44f9020010b92701000d44f9020010b92701000d44f9020010b92701000d44f902,
     0x00114ccf01000cb1510200114ccf01000cb1510200114ccf01000d44f9020010b92701000d44f9020010b92701,
     0x000d44f90200114ccf01000cb1510200114ccf01000cb1510200114ccf01000af65902],
    some ⟨⟨-18000, false⟩, ⟨-14400, true⟩, ⟨3, 2, 0, 7200⟩, ⟨11, 1, 0, 7200⟩⟩⟩,
  ⟨"America/Edmonton", -27232,
    [⟨-25200, false⟩, ⟨-21600, true⟩],
    [0x0c8a10f600015d9e0b010010257f00000dd8a10100039f3f00001b863101000f91d700000e6c4901000caf8f00,
     0x0011e23901000c1be7000011e23901000caf8f000228a4a901006d80b700002f4cb101000caf8f0002e403d901,
     0x000efe2f00000efff101000efe2f00000efff101000efe2f00000efff101000efe2f00000efff101000f91d700,
     0x000e6c4901000f91d700000efff101000efe2f00000efff101000efe2f00000efff101000efe2f00000efff101,
     0x000efe2f00000efff101000f91d700000e6c4901000f91d700000efff101000efe2f00000efff101000efe2f00,
     0x000efff101000efe2f00000d44f9010010b92700000d44f90100114ccf00000cb1510100114ccf00000cb15101,
     0x00114ccf00000d44f9010010b92700000d44f9010010b92700000d44f90100114ccf00000cb1510100114ccf00,
     0x000cb1510100114ccf00000d44f9010010b92700000d44f9010010b92700000d44f9010010b92700000d44f901,
     0x00114ccf00000cb1510100114ccf00000cb1510100114ccf00000d44f9010010b92700000d44f9010010b92700,
     0x000d44f90100114ccf00000cb1510100114ccf00000cb1510100114ccf00000af65901],
    some ⟨⟨-25200, false⟩, ⟨-21600, true⟩, ⟨3, 2, 0, 7200⟩, ⟨11, 1, 0, 7200⟩⟩⟩,
  ⟨"America/Eirunepe", -16768,
    [⟨-18000, false⟩, ⟨-14400, true⟩, ⟨-14400, false⟩],
    [0x0d66cc900002164dd801000edf6c00000f3f3901000ed3ff0001f5a3a101000b34c0000012de78010009f77700,
     0x00141bc101000a0c8f0000141bc1010007698f0001443cc9010006d5e700001bb061010004dba700001430d901,
     0x0007698f00001430d9010009e25f00001430d9010009f777000213e10901000af49700001275e1010009399f00,
     0x0014d999010008a5f70000ab4ec901000a60ef0001af99f10200a1e85700],
    none⟩,
  ⟨"America/El_Salvador", -21408,
    [⟨-21600, false⟩, ⟨-18000, true⟩],
    [0x0e397e6a0007cc536c01000c1be7000011e23901000c1be700],
    none⟩,
  ⟨"America/Fort_Nelson", -29447,
    [⟨-28800, false⟩, ⟨-25200, true⟩, ⟨-25200, false⟩],
    [0x09dffb70700407b471910010257f0002bce05101006d80b700002f4cb101000caf8f0000114e9101000caf8f00,
     0x00114e9101000caf8f000011e23901000c1be7000011e23901000caf8f0000114e9101000caf8f0000114e9101,
     0x000caf8f0000114e9101000caf8f0000114e9101000caf8f000011e23901000caf8f0000114e9101000caf8f00,
     0x00114e9101000caf8f0000114e9101000caf8f0000114e9101000caf8f000011e23901000c1be7000011e23901,
     0x000efe2f00000efff101000efe2f00000efff101000efe2f00000efff101000f91d700000e6c4901000f91d700,
     0x000efff101000efe2f00000efff101000efe2f00000efff101000efe2f00000efff101000efe2f00000efff101,
     0x000f91d700000efff101000efe2f00000efff101000efe2f00000efff101000efe2f00000efff101000efe2f00,
     0x000efff101000f91d700000e6c4901000f91d700000efff101000efe2f00000efff101000efe2f00000efff101,
     0x000efe2f00000efff101000efe2f00000efff101000f91d700000e6c4901000f91d700000efff101000efe2f00,
     0x000efff101000efe2f00000efff101000efe2f00000d44f9010010b92700000d44f90100114ccf00000cb15101,
     0x00114ccf00000cb1510100114ccf00000d44f9010010b92700000d44f9010010b92700000d44f90100114ccf00,
     0x000cb1510100114ccf00000cb1510100114ccf00000d44f9010010b92700000d44f9010010b92700000d44f901,
     0x0010b92700000d44f90100114ccf00000cb1510100114ccf00000cb1510100114ccf00000d44f9010010b92700,
     0x000d44f9010010b92700000d44f90100114ccf00000cb1510100114ccf00000cb1510100114ccf00000af65901,
     0x00139b6f00000a62b10100139b6f00000a62b10100139b6f00000af6590100139b6f00000a62b10100139b6f00,
     0x000a62b10100139b6f00000a62b10100139b6f00000a62b10100139b6f00000a62b102],
    none⟩,
  ⟨"America/Fortaleza", -9240,
    [⟨-10800, false⟩, ⟨-7200, true⟩],
    [0x0d66cab98002164dec81000edf6c00000f3f3901000ed3ff0001f5a3a101000b34c0000012de78010009f77700,
     0x00141bc101000a0c8f0000141bc1010007698f0001443cc9010006d5e700001bb061010004dba700001430d901,
     0x0007698f00001430d9010009e25f00001430d9010009f777000213e10901000af49700001275e1010009399f00,
     0x0014d999010008a5f7000014c481010008a5f70000155829010009cd470001221ff901000c1be700001275e101,
     0x0001266f00001d6b5901000a60ef00],
    none⟩,
  ⟨"America/Glace_Bay", -14388,
    [⟨-14400, false⟩, ⟨-10800, true⟩],
    [0x0c0b3e8b4001dc6dd2c10010257f0002bce05101006d80b70000e3d51901000caf8f00022f7b7101000efe2f00,
     0x000efff101000efe2f00000efff101000efe2f00000efff101000efe2f00000efff101000f91d700000e6c4901,
     0x000f91d700000efff101000efe2f00000efff101000efe2f00000efff101000efe2f00000efff101000efe2f00,
     0x000efff101000f91d700000e6c4901000f91d700000efff101000efe2f00000efff101000efe2f00000efff101,
     0x000efe2f00000d44f9010010b92700000d44f90100114ccf00000cb1510100114ccf00000cb1510100114ccf00,
     0x000d44f9010010b92700000d44f9010010b92700000d44f90100114ccf00000cb1510100114ccf00000cb15101,
     0x00114ccf00000d44f9010010b92700000d44f9010010b92700000d44f9010010b92700000d44f90100114ccf00,
     0x000cb1510100114ccf00000cb1510100114ccf00000d44f9010010b92700000d44f9010010b92700000d44f901,
     0x00114ccf00000cb1510100114ccf00000cb1510100114ccf00000af65901],
    some ⟨⟨-14400, false⟩, ⟨-10800, true⟩, ⟨3, 2, 0, 7200⟩, ⟨11, 1, 0, 7200⟩⟩⟩,
  ⟨"America/Goose_Bay", -14500,
    [⟨-12652, false⟩, ⟨-9052, true⟩, ⟨-12600, false⟩, ⟨-9000, true⟩, ⟨-14400, false⟩, ⟨-10800, true⟩,
     ⟨-7200, true⟩],
    [0x09dff7ca400407b426810010257f0001ee376f0200219e3cc3000c1be7020011e23903000c1be7020011e23903,
     0x000c1be702001275e103000b883f02001275e103000c1be7020011e23903000c1be7020011e23903006602f102,
     0x001275e103000c1be7020011e23903000c1be7020011e23903000c1be7020011e23903000c1be702001275e103,
     0x000c1be7020010bae903000caf8f0200114e9103000caf8f0200114e9103000caf8f0200114e9103000caf8f02,
     0x00114e9103000caf8f020011e23903000caf8f0200114e9103000caf8f0200114e9103000caf8f0200114e9103,
     0x000caf8f0200114e9103000f91d702000efff103000efe2f02000efff103000efe2f02000efff103000efe2f02,
     0x000efff103000efe2f02000efff103000f91d702000b20890400034c3085000f91d704000efff105000efe2f04,
     0x000efff105000efe2f04000efff105000efe2f04000efff105000efe2f04000efff105000f91d704000efff105,
     0x000efe2f04000efff105000efe2f04000efff105000efe2f04000efff105000efe2f04000efff105000f91d704,
     0x000e6c4905000f91d704000efff105000efe2f04000efff105000efe2f04000efff105000efe2f04000efff105,
     0x000efe2f04000efff105000f91d704000e6c4905000f91d704000efff105000efe2f04000efff105000efe2f04,
     0x000efff105000efe2f04000d433ac50010b92704000d44f90600114bee04000cb2320500114ccf04000cb15105,
     0x00114ccf04000d44f9050010b92704000d44f9050010b92704000d44f90500114ccf04000cb1510500114ccf04,
     0x000cb1510500114ccf04000d44f9050010b92704000d44f9050010b92704000d44f9050010b92704000d44f905,
     0x00114ccf04000cb1510500114ccf04000cb1510500114ccf04000d44f9050010b92704000d44f9050010b92704,
     0x000d44f90500114ccf04000cb1510500114ccf04000cb1510500114ccf04000af6590500139b6f04000a62b105,
     0x00139b6f04000a62b10500139b6f04000af6590500139b6f04000a62b10500139d2d44],
    some ⟨⟨-14400, false⟩, ⟨-10800, true⟩, ⟨3, 2, 0, 7200⟩, ⟨11, 1, 0, 7200⟩⟩⟩,
  ⟨"America/Grand_Turk", -17072,
    [⟨-18430, false⟩, ⟨-18000, false⟩, ⟨-14400, true⟩, ⟨-14400, false⟩],
    [0x0a9495eb000298896ce107e79b0f22000efe2f01000efff102000efe2f01000efff102000efe2f01000efff102,
     0x000f91d701000e6c4902000f91d701000efff102000efe2f01000efff102000efe2f01000efff102000efe2f01,
     0x000d44f9020010b92701000d44f90200114ccf01000cb1510200114ccf01000cb1510200114ccf01000d44f902,
     0x0010b92701000d44f9020010b92701000d44f90200114ccf01000cb1510200114ccf01000cb1510200114ccf01,
     0x000d44f9020010b92701000d44f9020010b92701000d44f9020010b92701000d44f90200114ccf01000cb15102,
     0x00114ccf01000cb1510200114ccf01000d44f9020010b92701000d44f9020010b92701000d44f90200114ccf01,
     0x000cb1510200114ccf01000cb1510200114ccf01000af6590200139b6f01000a62b10200139b6f01000a62b102,
     0x00139b6f01000af6590200139b6f01000a62b10200139b6f01000a62b10200139b6f01000a62b10200139b6f01,
     0x000a62b10200139b6f01000a62b103005a8e0802],
    some ⟨⟨-18000, false⟩, ⟨-14400, true⟩, ⟨3, 2, 0, 7200⟩, ⟨11, 1, 0, 7200⟩⟩⟩,
  ⟨"America/Guatemala", -21724,
    [⟨-21600, false⟩, ⟨-18000, true⟩],
    [0x0df602b5c0067b7c184100077ea7000115ee1901000a36bf0000e1b0a901000dd6df0001b8bf5901000caf8f00],
    none⟩,
  ⟨"America/Guayaquil", -19160,
    [⟨-18840, false⟩, ⟨-18000, false⟩, ⟨-14400, true⟩],
    [0x0a94966d8004d1d1bc0107472bab820005ae9701],
    none⟩,
  ⟨"America/Guyana", -13959,
    [⟨-14400, false⟩, ⟨-13500, false⟩, ⟨-10800, false⟩],
    [0x0d1df50070006bc6bb91071a58a7c201f563b040],
    none⟩,
  ⟨"America/Halifax", -15264,
    [⟨-14400, false⟩, ⟨-10800, true⟩],
    [0x0c0b3ec200019f333201000f134700002e2723010010257f00002e239f010009399f0000149a5101000a0c8f00,
     0x0013881901000a8b1f00001406a9010009f77700001406a901000b09af000012f47101000c30ff000012f47101,
     0x0009e25f000012f47101000c30ff000012f471010009cd4700001430d901000963cf0000149a5101000a760700,
     0x0013881901000b9d57000011cd2101000c30ff000011cd2101000cc4a7000012f471010009cd47000015582901,
     0x0009e25f00001430d9010008a5f7000012f47101000c30ff000011cd2101000c30ff0000141bc1010009e25f00,
     0x001260c901000c30ff000011cd2101000c30ff00000af81b01006d80b70000114e9101000caf8f0000114e9101,
     0x000caf8f0000114e9101000caf8f0000114e9101000caf8f00002fe05901000caf8f0000114e9101000caf8f00,
     0x00114e9101000caf8f0000114e9101000caf8f00002fe05901000caf8f0000114e9101000caf8f0000114e9101,
     0x000caf8f0000114e9101000caf8f00004dde7901000efe2f00000efff101000efe2f00000efff101000efe2f00,
     0x000efff101000f91d700000e6c4901000f91d700000efff101000efe2f00000efff101000efe2f00000efff101,
     0x000efe2f00000efff101000efe2f00000efff101000f91d700000efff101000efe2f00000efff101000efe2f00,
     0x000efff101000efe2f00000efff101000efe2f00000efff101000f91d700000e6c4901000f91d700000efff101,
     0x000efe2f00000efff101000efe2f00000efff101000efe2f00000efff101000efe2f00000efff101000f91d700,
     0x000e6c4901000f91d700000efff101000efe2f00000efff101000efe2f00000efff101000efe2f00000d44f901,
     0x0010b92700000d44f90100114ccf00000cb1510100114ccf00000cb1510100114ccf00000d44f9010010b92700,
     0x000d44f9010010b92700000d44f90100114ccf00000cb1510100114ccf00000cb1510100114ccf00000d44f901,
     0x0010b92700000d44f9010010b92700000d44f9010010b92700000d44f90100114ccf00000cb1510100114ccf00,
     0x000cb1510100114ccf00000d44f9010010b92700000d44f9010010b92700000d44f90100114ccf00000cb15101,
     0x00114ccf00000cb1510100114ccf00000af65901],
    some ⟨⟨-14400, false⟩, ⟨-10800, true⟩, ⟨3, 2, 0, 7200⟩, ⟨11, 1, 0, 7200⟩⟩⟩,
  ⟨"America/Havana", -19768,
    [⟨-19776, false⟩, ⟨-18000, false⟩, ⟨-14400, true⟩],
    [0x0a94969380042db99c8100570d1d02000a0c8f01015e70990200077ea70100167f79020008124f0100167f7902,
     0x00077ea70100527bb90200077ea70100167f790200077ea701023442e1020009f777010013dc7902000a60ef01,
     0x000f7e8102000cc4a7010011e23902000c1be7010013098902000efe2f01000efff102000efe2f01000efff102,
     0x000f91d701000efff102000d4337010010bae902000d584f010010a5d102000d6d6701001090b902000efe2f01,
     0x000efff102000f91d701000e6c4902000f91d701000f939902000caf8f01000d44f90200114ccf01000cb15102,
     0x00114ccf0100114e9102000caf8f0100114e9102000caf8f0100114e9102000caf8f0100114e9102000d433701,
     0x0010bae902000d433701000cb1510200114ccf01000cb1510200114ccf01000d44f9020010b92701000d44f902,
     0x0010b92701000e6c49020010257f01000e6c4902000f92b801000e6b6802000f92b801000e6b6802000f92b801,
     0x000e6b6802000f92b801000e6b6802000f92b801000eff1002000eff1001000eff1002000f92b801000dd7c002,
     0x00114db001000cb070020011e15801000cb0700200114db001000cb0700200114db001000d4418020010ba0801,
     0x000d4418020010ba0801000cb07002004ddd9801000af57802001308a801000b8920020012750001000af57802,
     0x001308a801000b892002001308a801000b89200200139c5001000b892002],
    some ⟨⟨-18000, false⟩, ⟨-14400, true⟩, ⟨3, 2, 0, 0⟩, ⟨11, 1, 0, 3600⟩⟩⟩,
  ⟨"America/Hermosillo", -26632,
    [⟨-25200, false⟩, ⟨-21600, false⟩, ⟨-21600, true⟩],
    [0x0e57928f0000a3a43001006752af00000dae7102000caf8f00000f150901012ecea7000657d12b020010b92700,
     0x000d44f9020010b92700000d44f9020010b92700],
    none⟩,
  ⟨"America/Indiana/Indianapolis", -20678,
    [⟨-21600, false⟩, ⟨-18000, true⟩, ⟨-18000, false⟩, ⟨-14400, true⟩],
    [0x09dc63f200040a22de0100114ccf00000cb1510100114ccf00028bc471010008124f00000b0b7101006d80b700,
     0x00114e9101000caf8f0000114e9101000caf8f0000114e9101000caf8f0000114e9101000caf8f000011e23901,
     0x000c1be7000011e23901000caf8f0000114e9101000caf8f0000114e9101000caf8f0000114e9101000caf8f00,
     0x00114e910200493f770000114e9102014b11cf03000efe2f02000efff103000efe2f02042a79490300114ccf02,
     0x000af65903],
    some ⟨⟨-18000, false⟩, ⟨-14400, true⟩, ⟨3, 2, 0, 7200⟩, ⟨11, 1, 0, 7200⟩⟩⟩,
  ⟨"America/Indiana/Knox", -20790,
    [⟨-21600, false⟩, ⟨-18000, true⟩, ⟨-18000, false⟩],
    [0x09dc63f200040a22de0100114ccf00000cb1510100114ccf00029ee23101006d80b700002f4cb101000caf8f00,
     0x00114e9101000caf8f0000114e9101000caf8f000011e23901000c1be7000011e23901000caf8f0000114e9101,
     0x000caf8f0000114e9101000caf8f0000114e9101000caf8f0000114e9101000f91d700000efff101000efe2f00,
     0x000efff101000caf8f0000114e9101000caf8f0000114e9101000efe2f00000efff101000f91d700000efff101,
     0x000efe2f00000efff102002cfc4f0000698df901000efe2f00000efff101000efe2f00000efff101000efe2f00,
     0x000efff101000efe2f00000efff101000f91d700000efff101000efe2f00000efff101000efe2f000005c57101,
     0x001838af000009cf090100142f1700000efff101000f91d700000e6c4901000f91d700000efff101000efe2f00,
     0x000efff101000efe2f00000efff101000efe2f00000efff101000efe2f00000efff101000f91d700000e6c4901,
     0x000f91d700000efff101000efe2f00000efff101000efe2f00000efff101000efe2f00000d44f9010010b92700,
     0x000d44f90100114ccf00000cb1510100114ccf00000cb1510100114ccf00000d44f9010010b9270201b2512801,
     0x00114db000000af65901],
    some ⟨⟨-21600, false⟩, ⟨-18000, true⟩, ⟨3, 2, 0, 7200⟩, ⟨11, 1, 0, 7200⟩⟩⟩,
  ⟨"America/Indiana/Marengo", -20723,
    [⟨-21600, false⟩, ⟨-18000, true⟩, ⟨-18000, false⟩, ⟨-14400, true⟩],
    [0x09dc63f200040a22de0100114ccf00000cb1510100114ccf00029ee23101006d80b70000a7d8d901000caf8f00,
     0x004d4ad101000caf8f0000114e9101000caf8f000011e23901000caf8f0000114e9101000caf8f0000114e9101,
     0x000caf8f0000114e9101000caf8f0000114e9101000caf8f000011e2390200f083c703000efe2f02000efff103,
     0x000efe2f02000efff103000f91d702000efff103000efe2f02000efff103000efe2f020005c571020018399002,
     0x0009ce280300142f17020393ef010300114ccf02000af65903],
    some ⟨⟨-18000, false⟩, ⟨-14400, true⟩, ⟨3, 2, 0, 7200⟩, ⟨11, 1, 0, 7200⟩⟩⟩,
  ⟨"America/Indiana/Petersburg", -20947,
    [⟨-21600, false⟩, ⟨-18000, true⟩, ⟨-18000, false⟩],
    [0x09dc63f200040a22de0100114ccf00000cb1510100114ccf00029ee23101006d80b7000120633f01000c1da900,
     0x0011e23901000caf8f0000114e9101000caf8f0000114e9101000caf8f0000114e9101000caf8f0000114e9101,
     0x000caf8f000011e23901000efe2f00000efff101000efe2f00000efff101000efe2f00000efff101000efe2f00,
     0x000efff102002d8ff700000efff101000efe2f00000efff101000efe2f00000efff101000efe2f00000efff101,
     0x000efe2f00000efff101000f91d700000efff101000efe2f00000efff101000efe2f000005c57101001838af00,
     0x0009cf090100142f1700000efff101000f91d700000e6c4901000f91d70203575e380100114db000000af65901,
     0x00139b6f02],
    some ⟨⟨-18000, false⟩, ⟨-14400, true⟩, ⟨3, 2, 0, 7200⟩, ⟨11, 1, 0, 7200⟩⟩⟩,
  ⟨"America/Indiana/Tell_City", -20823,
    [⟨-21600, false⟩, ⟨-18000, true⟩, ⟨-18000, false⟩, ⟨-14400, true⟩],
    [0x09dc63f200040a22de0100114ccf00000cb1510100114ccf00029ee23101006d80b7000120633f01000c1da900,
     0x0011e23901000caf8f0000114e9101000caf8f0000114e9101000caf8f0000114e9101000caf8f0000114e9101,
     0x000caf8f000011e23901000efe2f00000efff101000efe2f00000efff101000efe2f00000efff10200698c3700,
     0x000efff101000efe2f00000efff103000efd4e02000efff103000efe2f02042a79490100114db000000af65901],
    some ⟨⟨-21600, false⟩, ⟨-18000, true⟩, ⟨3, 2, 0, 7200⟩, ⟨11, 1, 0, 7200⟩⟩⟩,
  ⟨"America/Indiana/Vevay", -20416,
    [⟨-21600, false⟩, ⟨-18000, true⟩, ⟨-18000, false⟩, ⟨-14400, true⟩],
    [0x09dc63f200040a22de0100114ccf00000cb1510100114ccf00029ee23101006d80b7000101d3390201c39df703,
     0x000efe2f02000efff103000efe2f02000efff103000f91d702000efff103000efe2f0203ede9610300114ccf02,
     0x000af65903],
    some ⟨⟨-18000, false⟩, ⟨-14400, true⟩, ⟨3, 2, 0, 7200⟩, ⟨11, 1, 0, 7200⟩⟩⟩,
  ⟨"America/Indiana/Vincennes", -21007,
    [⟨-21600, false⟩, ⟨-18000, true⟩, ⟨-18000, false⟩, ⟨-14400, true⟩],
    [0x09dc63f200040a22de0100114ccf00000cb1510100114ccf00029ee23101006d80b70000114e9101000caf8f00,
     0x00c5d6f901000caf8f0000114e9101000caf8f000011e07701000c1da9000011e23901000caf8f0000114e9101,
     0x000caf8f0000114e9101000caf8f0000114e9101000caf8f0000114e9101000f91d700000efff101000c1be700,
     0x0011e23901000efe2f00000efff101000efe2f00000efff1020096896703000efe2f02000efff103000efe2f02,
     0x042a79490100114db000000af6590100139b6f02],
    some ⟨⟨-18000, false⟩, ⟨-14400, true⟩, ⟨3, 2, 0, 7200⟩, ⟨11, 1, 0, 7200⟩⟩⟩,
  ⟨"America/Indiana/Winamac", -20785,
    [⟨-21600, false⟩, ⟨-18000, true⟩, ⟨-18000, false⟩, ⟨-14400, true⟩],
    [0x09dc63f200040a22de0100114ccf00000cb1510100114ccf00029ee23101006d80b70000114e9101000caf8f00,
     0x00114e9101000caf8f0000114e9101000caf8f0000114e9101000caf8f000011e23901000c1be7000011e23901,
     0x000caf8f0000114e9101000caf8f0000114e9101000caf8f0000114e9101000caf8f0000114e9101000f91d700,
     0x000efff101000efe2f00000efff101000caf8f0000114e9101000caf8f0000114e9101000caf8f0000114e9101,
     0x000caf8f000011e2390200f083c703000efe2f02000efff103000efe2f02042a79490100114db000000af65903],
    some ⟨⟨-18000, false⟩, ⟨-14400, true⟩, ⟨3, 2, 0, 7200⟩, ⟨11, 1, 0, 7200⟩⟩⟩,
  ⟨"America/Inuvik", 0,
    [⟨-28800, false⟩, ⟨-25200, true⟩, ⟨-21600, true⟩, ⟨-25200, false⟩],
    [0x11fc88f0000245ad9201000efe2f00000efff101000efe2f00000efff101000efe2f00000efff101000efe2f00,
     0x000efff101000f91d700000e6c4901000f91d700000efff101000efe2f00000efff102000efd4e03000efff102,
     0x000efe2f03000efff102000efe2f03000efff102000f91d703000e6c4902000f91d703000efff102000efe2f03,
     0x000efff102000efe2f03000efff102000efe2f03000d44f9020010b92703000d44f90200114ccf03000cb15102,
     0x00114ccf03000cb1510200114ccf03000d44f9020010b92703000d44f9020010b92703000d44f90200114ccf03,
     0x000cb1510200114ccf03000cb1510200114ccf03000d44f9020010b92703000d44f9020010b92703000d44f902,
     0x0010b92703000d44f90200114ccf03000cb1510200114ccf03000cb1510200114ccf03000d44f9020010b92703,
     0x000d44f9020010b92703000d44f90200114ccf03000cb1510200114ccf03000cb1510200114ccf03000af65902],
    some ⟨⟨-25200, false⟩, ⟨-21600, true⟩, ⟨3, 2, 0, 7200⟩, ⟨11, 1, 0, 7200⟩⟩⟩,
  ⟨"America/Iqaluit", 0,
    [⟨-14400, true⟩, ⟨-18000, false⟩, ⟨-21600, false⟩, ⟨-18000, true⟩],
    [0x10c2ee2000005f45a6010320001900000efe2f01000efff100000efe2f01000efff100000efe2f01000efff100,
     0x000efe2f01000efff100000f91d701000e6c4900000f91d701000efff100000efe2f01000efff100000efe2f01,
     0x000efff100000efe2f01000efff100000efe2f01000efff100000f91d701000e6c4900000f91d701000efff100,
     0x000efe2f01000efff100000efe2f01000efff100000efe2f01000d44f9000010b92701000d44f90000114ccf01,
     0x000cb1510000114ccf01000cb1510000114ccf01000d44f9000010b92701000d44f9000010b92701000d44f900,
     0x00114ccf01000cb1510000114ccf01000cb1510000114ccf01000d44f9000010b92701000d44f9000010b92701,
     0x000d44f9000010b92701000d44f90000114ccf02000cb2320300114ccf01000cb0700000114ccf01000d44f900,
     0x0010b92701000d44f9000010b92701000d44f90000114ccf01000cb1510000114ccf01000cb1510000114ccf01,
     0x000af65900],
    some ⟨⟨-18000, false⟩, ⟨-14400, true⟩, ⟨3, 2, 0, 7200⟩, ⟨11, 1, 0, 7200⟩⟩⟩,
  ⟨"America/Jamaica", -18430,
    [⟨-18000, false⟩, ⟨-14400, true⟩],
    [0x0d2d1f57e00747d64721001838af000009cf090100142f1700000efff101000f91d700000e6c4901000f91d700,
     0x000efff101000efe2f00000efff101000efe2f00000efff101000efe2f00000efff101000efe2f00000efff101,
     0x000f91d700000e6c4901000f91d700],
    none⟩,
  ⟨"America/Juneau", 54139,
    [⟨-32261, false⟩, ⟨-28800, false⟩, ⟨-25200, true⟩, ⟨-28800, true⟩, ⟨-32400, false⟩],
    [0x07f853e51003dc434f4104e01e7db2006d80b70102c5721102000efe2f01000efff102000efe2f01000efff102,
     0x000f91d701000efff102000efe2f01000efff102000efe2f010005c57102001838af010009cf090200142f1701,
     0x000efff102000f91d701000e6c4902000f91d701000efff102000efe2f01000efff102000efe2f01000efff103,
     0x000eff1001000eff1002000efe2f01000efff102000f91d701000e6c4902000f91d704000f00d203000efe2f04,
     0x000efff103000efe2f04000efff103000efe2f04000d44f9030010b92704000d44f90300114ccf04000cb15103,
     0x00114ccf04000cb1510300114ccf04000d44f9030010b92704000d44f9030010b92704000d44f90300114ccf04,
     0x000cb1510300114ccf04000cb1510300114ccf04000d44f9030010b92704000d44f9030010b92704000d44f903,
     0x0010b92704000d44f90300114ccf04000cb1510300114ccf04000cb1510300114ccf04000d44f9030010b92704,
     0x000d44f9030010b92704000d44f90300114ccf04000cb1510300114ccf04000cb1510300114ccf04000af65903],
    some ⟨⟨-32400, false⟩, ⟨-28800, true⟩, ⟨3, 2, 0, 7200⟩, ⟨11, 1, 0, 7200⟩⟩⟩,
  ⟨"America/Kentucky/Louisville", -20582,
    [⟨-21600, false⟩, ⟨-18000, true⟩, ⟨-18000, false⟩, ⟨-14400, true⟩],
    [0x09dc63f200040a22de0100114ccf00000cb1510100114ccf00002d91b901000a21a700024f73d101000caf8f00,
     0x000b0b7101006d80b70000114cd2c10002e325400075aac101000c1be7000011e23901000caf8f0000114e9101,
     0x000caf8f0000114e9101000caf8f0000114e9101000caf8f0000114e9101000caf8f000011e23901000efe2f00,
     0x000efff101000efe2f00000efff101000efe2f00000efff101000efe2f00000efff101000f91d700000efff101,
     0x0006eaff0200cb9aa803000efe2f02000efff103000efe2f02000efff103000efe2f02000efff103000f91d702,
     0x000efff103000efe2f02000efff103000efe2f020005c5710200183990020009ce280300142f1702000efff103,
     0x000f91d702000e6c4903000f91d702000efff103000efe2f02000efff103000efe2f02000efff103000efe2f02,
     0x000efff103000efe2f02000efff103000f91d702000e6c4903000f91d702000efff103000efe2f02000efff103,
     0x000efe2f02000efff103000efe2f02000d44f9030010b92702000d44f90300114ccf02000cb1510300114ccf02,
     0x000cb1510300114ccf02000d44f9030010b92702000d44f9030010b92702000d44f90300114ccf02000cb15103,
     0x00114ccf02000cb1510300114ccf02000d44f9030010b92702000d44f9030010b92702000d44f9030010b92702,
     0x000d44f90300114ccf02000cb1510300114ccf02000cb1510300114ccf02000d44f9030010b92702000d44f903,
     0x0010b92702000d44f90300114ccf02000cb1510300114ccf02000cb1510300114ccf02000af65903],
    some ⟨⟨-18000, false⟩, ⟨-14400, true⟩, ⟨3, 2, 0, 7200⟩, ⟨11, 1, 0, 7200⟩⟩⟩,
  ⟨"America/Kentucky/Monticello", -20364,
    [⟨-21600, false⟩, ⟨-18000, true⟩, ⟨-18000, false⟩, ⟨-14400, true⟩],
    [0x09dc63f200040a22de0100114ccf00000cb1510100114ccf00029ee23101006d80b70002a773f101000efe2f00,
     0x000efff101000efe2f00000efff101000efe2f00000efff101000f91d700000efff101000efe2f00000efff101,
     0x000efe2f000005c57101001838af000009cf090100142f1700000efff101000f91d700000e6c4901000f91d700,
     0x000efff101000efe2f00000efff101000efe2f00000efff101000efe2f00000efff101000efe2f00000efff101,
     0x000f91d700000e6c4901000f91d700000efff101000efe2f00000efff101000efe2f00000efff101000efe2f00,
     0x000d44f9010010b92700000d44f90100114ccf00000cb1510100114ccf00000cb1510100114ccf00000d44f901,
     0x0010b92700000d44f9010010b92700000d44f90100114ccf00000cb1510100114ccf00000cb1510100114ccf00,
     0x000d44f9010010b92700000d44f9010010b92700000d44f9010010b92700000d44f90100114ccf00000cb15101,
     0x00114ccf02000cb0700300114ccf02000d44f9030010b92702000d44f9030010b92702000d44f90300114ccf02,
     0x000cb1510300114ccf02000cb1510300114ccf02000af65903],
    some ⟨⟨-18000, false⟩, ⟨-14400, true⟩, ⟨3, 2, 0, 7200⟩, ⟨11, 1, 0, 7200⟩⟩⟩,
  ⟨"America/La_Paz", -16356,
    [⟨-12756, true⟩, ⟨-14400, false⟩],
    [0x0f7e0d7640000d03ef01],
    none⟩,
  ⟨"America/Lima", -18492,
    [⟨-18516, false⟩, ⟨-18000, false⟩, ⟨-14400, true⟩],
    [0x0a949643c0022ed1d1810375b097c20007698f01000e967902000efe2f01000efff102000efe2f0105619b4902,
     0x0007698f010016a9a9020007698f010052e531020007698f010070f869020007698f01],
    none⟩,
  ⟨"America/Los_Angeles", -28378,
    [⟨-28800, false⟩, ⟨-25200, true⟩],
    [0x09dc65b400040a22de0100114ccf00000cb1510100114ccf00029ee23101006d80b7000049d4e4c10018239340,
     0x0027e16001000c1cc8000011e15801000cb0700000114db001000cb0700000114db001000cb0700000114db001,
     0x000cb0700000114db001000cb070000011e15801000cb0700000114db001000cb0700000114db001000cb07000,
     0x00114db001000cb0700000114db001000cb070000011e15801000c1cc8000011e15801000eff1000000eff1001,
     0x000eff1000000eff1001000eff1000000eff1001000f92b800000e6b6801000f92b800000efff101000efe2f00,
     0x000efff101000efe2f00000efff101000efe2f00000efff101000efe2f00000efff101000f91d700000efff101,
     0x000efe2f00000efff101000efe2f000005c57101001838af000009cf090100142f1700000efff101000f91d700,
     0x000e6c4901000f91d700000efff101000efe2f00000efff101000efe2f00000efff101000efe2f00000efff101,
     0x000efe2f00000efff101000f91d700000e6c4901000f91d700000efff101000efe2f00000efff101000efe2f00,
     0x000efff101000efe2f00000d44f9010010b92700000d44f90100114ccf00000cb1510100114ccf00000cb15101,
     0x00114ccf00000d44f9010010b92700000d44f9010010b92700000d44f90100114ccf00000cb1510100114ccf00,
     0x000cb1510100114ccf00000d44f9010010b92700000d44f9010010b92700000d44f9010010b92700000d44f901,
     0x00114ccf00000cb1510100114ccf00000cb1510100114ccf00000d44f9010010b92700000d44f9010010b92700,
     0x000d44f90100114ccf00000cb1510100114ccf00000cb1510100114ccf00000af65901],
    some ⟨⟨-28800, false⟩, ⟨-25200, true⟩, ⟨3, 2, 0, 7200⟩, ⟨11, 1, 0, 7200⟩⟩⟩,
  ⟨"America/Maceio", -8572,
    [⟨-10800, false⟩, ⟨-7200, true⟩],
    [0x0d66ca8fc002164e1641000edf6c00000f3f3901000ed3ff0001f5a3a101000b34c0000012de78010009f77700,
     0x00141bc101000a0c8f0000141bc1010007698f0001443cc9010006d5e700001bb061010004dba700001430d901,
     0x0007698f00001430d9010009e25f00001430d9010009f777000213e10901000af49700001275e1010009399f00,
     0x0014d999010008a5f7000014c481010008a5f70000155829010009cd470000aabb21010009cd4700006d979101,
     0x000c1be700001275e1010001266f00001d6b5901000a60ef00],
    none⟩,
  ⟨"America/Managua", -20708,
    [⟨-20712, false⟩, ⟨-21600, false⟩, ⟨-18000, false⟩, ⟨-18000, true⟩],
    [0x0a9496ce40053a61c841049162b78200360c9f01007adba90300082767010015d6b9030008276701015ad3fd02,
     0x0015fba3010008292902007861170100f8ed1903000e6a87010011505303000caeae01],
    none⟩,
  ⟨"America/Manaus", -14404,
    [⟨-14400, false⟩, ⟨-10800, true⟩],
    [0x0d66cbfc4002164d8ac1000edf6c00000f3f3901000ed3ff0001f5a3a101000b34c0000012de78010009f77700,
     0x00141bc101000a0c8f0000141bc1010007698f0001443cc9010006d5e700001bb061010004dba700001430d901,
     0x0007698f00001430d9010009e25f00001430d9010009f777000213e10901000af49700001275e1010009399f00,
     0x0014d999010008a5f70000ab4ec901000a60ef00],
    none⟩,
  ⟨"America/Martinique", -14660,
    [⟨-14400, false⟩, ⟨-10800, true⟩],
    [0x0d16608c40081a9a5fc1000e6a8700],
    none⟩,
  ⟨"America/Matamoros", -23400,
    [⟨-21600, false⟩, ⟨-18000, true⟩],
    [0x0e5791ae0007c9f16a0100114ccf0000dfcb81010010b92700000d44f9010010b92700000d44f9010010b92700,
     0x000d44f90100114ccf00000cb1510100114ccf00000f939901000c1be700000f9399010010b92700000d44f901,
     0x0010b92700000d44f90100114ccf00000cb1510100114ccf00000cb1510100114ccf00000cb1510100114ccf00,
     0x000d44f9010010b92700000d44f9010010b92700000b8a0101],
    some ⟨⟨-21600, false⟩, ⟨-18000, true⟩, ⟨3, 2, 0, 7200⟩, ⟨11, 1, 0, 7200⟩⟩⟩,
  ⟨"America/Mazatlan", -25540,
    [⟨-25200, false⟩, ⟨-21600, false⟩, ⟨-21600, true⟩],
    [0x0e57928f0000a3a43001006752af00000dae7102000caf8f00000f150901012ecea7000657d12b020010b92700,
     0x000d44f9020010b92700000d44f9020010b92700000d44f90200114ccf00000cb1510200114ccf00000f939902,
     0x000c1be700000f9399020010b92700000d44f9020010b92700000d44f90200114ccf00000cb1510200114ccf00,
     0x000cb1510200114ccf00000cb1510200114ccf00000d44f9020010b92700000d44f9020010b92700000d44f902,
     0x00114ccf00000cb1510200114ccf00000cb1510200114ccf00000d44f9020010b92700000d44f9020010b92700,
     0x000d44f9020010b92700000d44f90200114ccf00000cb1510200114ccf00000cb1510200114ccf00000d44f902,
     0x0010b92700000d44f9020010b92700000d44f90200114ccf00000cb1510200114ccf00],
    none⟩,
  ⟨"America/Menominee", -21027,
    [⟨-21600, false⟩, ⟨-18000, true⟩, ⟨-18000, false⟩],
    [0x0a13989e3003d2ee31d100114ccf00000cb1510100114ccf00029ee23101006d80b70000114e9101000caf8f00,
     0x024ce5e901000f91d700004afc310200788b4701000eff10000005c57101001838af000009cf090100142f1700,
     0x000efff101000f91d700000e6c4901000f91d700000efff101000efe2f00000efff101000efe2f00000efff101,
     0x000efe2f00000efff101000efe2f00000efff101000f91d700000e6c4901000f91d700000efff101000efe2f00,
     0x000efff101000efe2f00000efff101000efe2f00000d44f9010010b92700000d44f90100114ccf00000cb15101,
     0x00114ccf00000cb1510100114ccf00000d44f9010010b92700000d44f9010010b92700000d44f90100114ccf00,
     0x000cb1510100114ccf00000cb1510100114ccf00000d44f9010010b92700000d44f9010010b92700000d44f901,
     0x0010b92700000d44f90100114ccf00000cb1510100114ccf00000cb1510100114ccf00000d44f9010010b92700,
     0x000d44f9010010b92700000d44f90100114ccf00000cb1510100114ccf00000cb1510100114ccf00000af65901],
    some ⟨⟨-21600, false⟩, ⟨-18000, true⟩, ⟨3, 2, 0, 7200⟩, ⟨11, 1, 0, 7200⟩⟩⟩,
  ⟨"America/Merida", -21508,
    [⟨-21600, false⟩, ⟨-18000, false⟩, ⟨-18000, true⟩],
    [0x0e5791ae00070d40ba0100199f4700019429b9020010b92700000d44f9020010b92700000d44f9020010b92700,
     0x000d44f90200114ccf00000cb1510200114ccf00000f939902000c1be700000f9399020010b92700000d44f902,
     0x0010b92700000d44f90200114ccf00000cb1510200114ccf00000cb1510200114ccf00000cb1510200114ccf00,
     0x000d44f9020010b92700000d44f9020010b92700000d44f90200114ccf00000cb1510200114ccf00000cb15102,
     0x00114ccf00000d44f9020010b92700000d44f9020010b92700000d44f9020010b92700000d44f90200114ccf00,
     0x000cb1510200114ccf00000cb1510200114ccf00000d44f9020010b92700000d44f9020010b92700000d44f902,
     0x00114ccf00000cb1510200114ccf00],
    none⟩,
  ⟨"America/Metlakatla", 54822,
    [⟨-31578, false⟩, ⟨-28800, false⟩, ⟨-25200, true⟩, ⟨-32400, false⟩, ⟨-28800, true⟩],
    [0x07f853e51003dc43249104e01ea862006d80b70102c5721102000efe2f01000efff102000efe2f01000efff102,
     0x000f91d701000efff102000efe2f01000efff102000efe2f010005c57102001838af010009cf090200142f1701,
     0x000efff102000f91d701000e6c4902000f91d701000efff102000efe2f01000efff102000efe2f01000efff102,
     0x000efe2f01000efff102000efe2f01000efff102000f91d701000e6c4902000f91d70103c33ad103000af65904,
     0x00139b6f03000a62b10400139b6f03000a62b10400139b6f010006583803],
    some ⟨⟨-32400, false⟩, ⟨-28800, true⟩, ⟨3, 2, 0, 7200⟩, ⟨11, 1, 0, 7200⟩⟩⟩,
  ⟨"America/Mexico_City", -23796,
    [⟨-25200, false⟩, ⟨-21600, false⟩, ⟨-21600, true⟩, ⟨-18000, true⟩],
    [0x0e57928f0000a3a43001006752af00000dae7102000caf8f00000f15090100ce129703000b883f01002bebd903,
     0x00094eb70100517e9903000b48f70100ae1bf903000dd6df01055f0f23030010b92701000d44f9030010b92701,
     0x000d44f9030010b92701000d44f90300114ccf01000cb1510300114ccf01000f939903000c1be701000f939903,
     0x0010b92701000d44f9030010b92701000d44f90300114ccf01000cb1510300114ccf01000cb1510300114ccf01,
     0x000cb1510300114ccf01000d44f9030010b92701000d44f9030010b92701000d44f90300114ccf01000cb15103,
     0x00114ccf01000cb1510300114ccf01000d44f9030010b92701000d44f9030010b92701000d44f9030010b92701,
     0x000d44f90300114ccf01000cb1510300114ccf01000cb1510300114ccf01000d44f9030010b92701000d44f903,
     0x0010b92701000d44f90300114ccf01000cb1510300114ccf01],
    none⟩,
  ⟨"America/Miquelon", -13480,
    [⟨-14400, false⟩, ⟨-10800, false⟩, ⟨-7200, true⟩],
    [0x0d1a157a800818f4c98100d07811020010b92701000d44f90200114ccf01000cb1510200114ccf01000cb15102,
     0x00114ccf01000d44f9020010b92701000d44f9020010b92701000d44f90200114ccf01000cb1510200114ccf01,
     0x000cb1510200114ccf01000d44f9020010b92701000d44f9020010b92701000d44f9020010b92701000d44f902,
     0x00114ccf01000cb1510200114ccf01000cb1510200114ccf01000d44f9020010b92701000d44f9020010b92701,
     0x000d44f90200114ccf01000cb1510200114ccf01000cb1510200114ccf01000af65902],
    some ⟨⟨-10800, false⟩, ⟨-7200, true⟩, ⟨3, 2, 0, 7200⟩, ⟨11, 1, 0, 7200⟩⟩⟩,
  ⟨"America/Moncton", -15548,
    [⟨-18000, false⟩, ⟨-14400, false⟩, ⟨-10800, true⟩],
    [0x09de12e3c0022d2c894101dc6cf1020010257f0101b815b80200077ea70100167f790200077ea70100167f7902,
     0x00077ea70100167f790200077ea70100167f790200077ea70100167f790200077ea7010015d6b9020009cd4701,
     0x0013b24902000a4bd70100128af902000c06cf01000b216a02006d80b70100114e9102000caf8f0100114e9102,
     0x000caf8f0100114e9102000caf8f0100114e9102000caf8f010011e23902000c1be7010011e23902000caf8f01,
     0x00114e9102000caf8f0100114e9102000caf8f0100114e9102000caf8f0100114e9102000caf8f010011e23902,
     0x000caf8f0100114e9102000efe2f01000efff102000efe2f01000efff102000efe2f01000efff102000f91d701,
     0x000efff102000efe2f01000efff102000efe2f01000efff102000efe2f01000efff102000efe2f01000efff102,
     0x000f91d701000e6c4902000f91d701000efff102000efe2f01000efff102000efe2f01000efff102000efe2f01,
     0x000efff102000efe2f01000efff102000f91d701000efff102000efe2f01002cfe1102000efe2f01000efff102,
     0x000efe2f01000efff102000f91d701000e6c4902000f91d701000efff102000efe2f01000efff102000efe2f01,
     0x000efff102000efe2f01000efff102000efe2f01000efff102000f91d701000e6c4902000f91d701000efff102,
     0x000efe2f01000efff102000efe2f01000efff102000efe2f01000d44f9020010b92701000d44f90200114ccf01,
     0x000cb1510200114ccf01000cb1510200114ccf01000d44f9020010b92701000d44f9020010b92701000d433ac2,
     0x00114ccf01000cb1510200114ccf01000cb1510200114ccf01000d44f9020010b92701000d44f9020010b92701,
     0x000d44f9020010b92701000d44f90200114ccf01000cb1510200114ccf01000cb1510200114ccf01000d44f902,
     0x0010b92701000d44f9020010b92701000d44f90200114ccf01000cb1510200114ccf01000cb1510200114ccf01,
     0x000af81742],
    some ⟨⟨-14400, false⟩, ⟨-10800, true⟩, ⟨3, 2, 0, 7200⟩, ⟨11, 1, 0, 7200⟩⟩⟩,
  ⟨"America/Monterrey", -24076,
    [⟨-25200, false⟩, ⟨-21600, false⟩, ⟨-21600, true⟩, ⟨-18000, true⟩],
    [0x0e5791ae0000a3a51101006752af00000dae7102000caf8f00000f150901069586a10300114ccf0100dfcb8103,
     0x0010b92701000d44f9030010b92701000d44f9030010b92701000d44f90300114ccf01000cb1510300114ccf01,
     0x000f939903000c1be701000f9399030010b92701000d44f9030010b92701000d44f90300114ccf01000cb15103,
     0x00114ccf01000cb1510300114ccf01000cb1510300114ccf01000d44f9030010b92701000d44f9030010b92701,
     0x000d44f90300114ccf01000cb1510300114ccf01000cb1510300114ccf01000d44f9030010b92701000d44f903,
     0x0010b92701000d44f9030010b92701000d44f90300114ccf01000cb1510300114ccf01000cb1510300114ccf01,
     0x000d44f9030010b92701000d44f9030010b92701000d44f90300114ccf01000cb1510300114ccf01],
    none⟩,
  ⟨"America/Montevideo", -13491,
    [⟨-14400, false⟩, ⟨-10800, true⟩, ⟨-12600, false⟩, ⟨-9000, true⟩, ⟨-10800, false⟩, ⟨-7200, true⟩,
     ⟨-5400, true⟩],
    [0x0e254c83300066d538d1000f134702000f149881000efe9f82000f149881000efe9f8200e413f081000cafff82,
     0x00114e2081000cafff8200114e2081000cafff8200114e2081000cafff820011e1c881000c1c57820011e1c881,
     0x000c1c5782000f932881000efe9f8200114e2081000cafff82000a3810810029326f83000769ff8401e761f883,
     0x000e6af7840005315885000408b7040098d9c905000e6a87040050423103000f7d2f84002a06408500041dcf04,
     0x0037f389050006eaff04002cfe110600049bee83000e6c490400093af0850008124f040033e9f1050006575704,
     0x00167f790500077ea7040017a6c905000657570400049e2105001a874f0400e91b19050006423f040017a6c905,
     0x0006eaff0400139d31050009cd470400139d3105000af4970400139d3105000a60ef040013098905000af49704,
     0x015bcd9905000f9399040010274105000caf8f040010bae905000d43370400114e9105000caf8f0400114e9105,
     0x000caf8f0400114e9105000d4337040010bae905000d4337040010bae905000d43370400114e9105000caf8f04,
     0x00114e9105000caf8f0400114e9105000caf8f04],
    none⟩,
  ⟨"America/New_York", -17762,
    [⟨-18000, false⟩, ⟨-14400, true⟩],
    [0x09dc631100040a22de0100114ccf00000cb1510100114ccf00000cb151010011e07700000e6c4901000caf8f00,
     0x0011e23901000c1be7000011e23901000caf8f0000114e9101000caf8f0000114e9101000caf8f0000114e9101,
     0x000caf8f0000114e9101000caf8f000011e23901000caf8f0000114e9101000caf8f0000114e9101000caf8f00,
     0x00114e9101000caf8f0000114e9101000caf8f000011e23901000c1be7000011e23901000caf8f0000114e9101,
     0x000caf8f0000114e9101000caf8f0000114e9101000caf8f0000114e9101000caf8f000011e23901000c1be700,
     0x0011e23901000caf8f0000114e9101000caf8f00000b0b7101006d80b70000114e9101000caf8f0000114e9101,
     0x000caf8f0000114e9101000caf8f0000114e9101000caf8f000011e23901000c1be7000011e23901000caf8f00,
     0x00114e9101000caf8f0000114e9101000caf8f0000114e9101000caf8f0000114e9101000f91d700000efff101,
     0x000efe2f00000efff101000efe2f00000efff101000efe2f00000efff101000efe2f00000efff101000f91d700,
     0x000efff101000efe2f00000efff101000efe2f00000efff101000efe2f00000efff101000efe2f00000efff101,
     0x000f91d700000e6c4901000f91d700000efff101000efe2f00000efff101000efe2f00000efff101000efe2f00,
     0x000efff101000efe2f00000efff101000f91d700000efff101000efe2f00000efff101000efe2f000005c57101,
     0x001838af000009cf090100142f1700000efff101000f91d700000e6c4901000f91d700000efff101000efe2f00,
     0x000efff101000efe2f00000efff101000efe2f00000efff101000efe2f00000efff101000f91d700000e6c4901,
     0x000f91d700000efff101000efe2f00000efff101000efe2f00000efff101000efe2f00000d44f9010010b92700,
     0x000d44f90100114ccf00000cb1510100114ccf00000cb1510100114ccf00000d44f9010010b92700000d44f901,
     0x0010b92700000d44f90100114ccf00000cb1510100114ccf00000cb1510100114ccf00000d44f9010010b92700,
     0x000d44f9010010b92700000d44f9010010b92700000d44f90100114ccf00000cb1510100114ccf00000cb15101,
     0x00114ccf00000d44f9010010b92700000d44f9010010b92700000d44f90100114ccf00000cb1510100114ccf00,
     0x000cb1510100114ccf00000af65901],
    some ⟨⟨-18000, false⟩, ⟨-14400, true⟩, ⟨3, 2, 0, 7200⟩, ⟨11, 1, 0, 7200⟩⟩⟩,
  ⟨"America/Nome", 46702,
    [⟨-39698, false⟩, ⟨-39600, false⟩, ⟨-36000, true⟩, ⟨-32400, false⟩, ⟨-28800, true⟩],
    [0x07f853e51003dc45201104e01f4fe2006d80b70102c5721102000efe2f01000efff102000efe2f01000efff102,
     0x000f91d701000efff102000efe2f01000efff102000efe2f010005c57102001838af010009cf090200142f1701,
     0x000efff102000f91d701000e6c4902000f91d701000efff102000efe2f01000efff102000efe2f01000efff102,
     0x000efe2f01000efff102000efe2f01000efff102000f91d701000e6c4902000f91d703000efe2f04000efe2f03,
     0x000efff104000efe2f03000efff104000efe2f03000d44f9040010b92703000d44f90400114ccf03000cb15104,
     0x00114ccf03000cb1510400114ccf03000d44f9040010b92703000d44f9040010b92703000d44f90400114ccf03,
     0x000cb1510400114ccf03000cb1510400114ccf03000d44f9040010b92703000d44f9040010b92703000d44f904,
     0x0010b92703000d44f90400114ccf03000cb1510400114ccf03000cb1510400114ccf03000d44f9040010b92703,
     0x000d44f9040010b92703000d44f90400114ccf03000cb1510400114ccf03000cb1510400114ccf03000af65904],
    some ⟨⟨-32400, false⟩, ⟨-28800, true⟩, ⟨3, 2, 0, 7200⟩, ⟨11, 1, 0, 7200⟩⟩⟩,
  ⟨"America/Noronha", -7780,
    [⟨-7200, false⟩, ⟨-3600, true⟩],
    [0x0d66ca5e4002164d66c1000edf6c00000f3f3901000ed3ff0001f5a3a101000b34c0000012de78010009f77700,
     0x00141bc101000a0c8f0000141bc1010007698f0001443cc9010006d5e700001bb061010004dba700001430d901,
     0x0007698f00001430d9010009e25f00001430d9010009f777000213e10901000af49700001275e1010009399f00,
     0x0014d999010008a5f7000014c481010008a5f70000155829010009cd470001221ff901000c1be700001275e101,
     0x000092c700001dff0101000a60ef00],
    none⟩,
  ⟨"America/North_Dakota/Beulah", -24427,
    [⟨-25200, false⟩, ⟨-21600, true⟩, ⟨-21600, false⟩],
    [0x09dc64d300040a22de0100114ccf00000cb1510100114ccf00029ee23101006d80b700028975d101000efe2f00,
     0x000efff101000efe2f00000efff101000efe2f00000efff101000efe2f00000efff101000f91d700000efff101,
     0x000efe2f00000efff101000efe2f000005c57101001838af000009cf090100142f1700000efff101000f91d700,
     0x000e6c4901000f91d700000efff101000efe2f00000efff101000efe2f00000efff101000efe2f00000efff101,
     0x000efe2f00000efff101000f91d700000e6c4901000f91d700000efff101000efe2f00000efff101000efe2f00,
     0x000efff101000efe2f00000d44f9010010b92700000d44f90100114ccf00000cb1510100114ccf00000cb15101,
     0x00114ccf00000d44f9010010b92700000d44f9010010b92700000d44f90100114ccf00000cb1510100114ccf00,
     0x000cb1510100114ccf00000d44f9010010b92700000d44f9010010b92700000d44f9010010b92700000d44f901,
     0x00114ccf00000cb1510100114ccf00000cb1510100114ccf00000d44f9010010b92700000d44f9010010b92700,
     0x000d44f90100114ccf00000cb1510100114ccf00000cb1510100114ccf00000af6590100139b6f00000a62b101,
     0x00139b6f00000a62b10100139b6f00000af6590100139b6f02],
    some ⟨⟨-21600, false⟩, ⟨-18000, true⟩, ⟨3, 2, 0, 7200⟩, ⟨11, 1, 0, 7200⟩⟩⟩,
  ⟨"America/North_Dakota/Center", -24312,
    [⟨-25200, false⟩, ⟨-21600, true⟩, ⟨-21600, false⟩, ⟨-18000, true⟩],
    [0x09dc64d300040a22de0100114ccf00000cb1510100114ccf00029ee23101006d80b700028975d101000efe2f00,
     0x000efff101000efe2f00000efff101000efe2f00000efff101000efe2f00000efff101000f91d700000efff101,
     0x000efe2f00000efff101000efe2f000005c57101001838af000009cf090100142f1700000efff101000f91d700,
     0x000e6c4901000f91d700000efff101000efe2f00000efff101000efe2f00000efff101000efe2f00000efff101,
     0x000efe2f00000efff101000f91d700000e6c4901000f91d700000efff101000efe2f00000efff101000efe2f00,
     0x000efff101000efe2f00000d44f9010010b92700000d44f90100114ccf00000cb1510100114ccf00000cb15101,
     0x00114ccf00000d44f9010010b92700000d44f9010010b92702000d44180300114ccf02000cb1510300114ccf02,
     0x000cb1510300114ccf02000d44f9030010b92702000d44f9030010b92702000d44f9030010b92702000d44f903,
     0x00114ccf02000cb1510300114ccf02000cb1510300114ccf02000d44f9030010b92702000d44f9030010b92702,
     0x000d44f90300114ccf02000cb1510300114ccf02000cb1510300114ccf02000af65903],
    some ⟨⟨-21600, false⟩, ⟨-18000, true⟩, ⟨3, 2, 0, 7200⟩, ⟨11, 1, 0, 7200⟩⟩⟩,
  ⟨"America/North_Dakota/New_Salem", -24339,
    [⟨-25200, false⟩, ⟨-21600, true⟩, ⟨-21600, false⟩, ⟨-18000, true⟩],
    [0x09dc64d300040a22de0100114ccf00000cb1510100114ccf00029ee23101006d80b700028975d101000efe2f00,
     0x000efff101000efe2f00000efff101000efe2f00000efff101000efe2f00000efff101000f91d700000efff101,
     0x000efe2f00000efff101000efe2f000005c57101001838af000009cf090100142f1700000efff101000f91d700,
     0x000e6c4901000f91d700000efff101000efe2f00000efff101000efe2f00000efff101000efe2f00000efff101,
     0x000efe2f00000efff101000f91d700000e6c4901000f91d700000efff101000efe2f00000efff101000efe2f00,
     0x000efff101000efe2f00000d44f9010010b92700000d44f90100114ccf00000cb1510100114ccf00000cb15101,
     0x00114ccf00000d44f9010010b92700000d44f9010010b92700000d44f90100114ccf00000cb1510100114ccf00,
     0x000cb1510100114ccf00000d44f9010010b92700000d44f9010010b92700000d44f9010010b92700000d44f901,
     0x00114ccf00000cb1510100114ccf00000cb1510100114ccf00000d44f9010010b92700000d44f9010010b92702,
     0x000d44180300114ccf02000cb1510300114ccf02000cb1510300114ccf02000af65903],
    some ⟨⟨-21600, false⟩, ⟨-18000, true⟩, ⟨3, 2, 0, 7200⟩, ⟨11, 1, 0, 7200⟩⟩⟩,
  ⟨"America/Nuuk", -12416,
    [⟨-10800, false⟩, ⟨-7200, true⟩, ⟨-7200, false⟩, ⟨-3600, true⟩],
    [0x0db42a8800077cd14501000e67e400000eff1001000eff1000000eff1001000eff1000000eff1001000eff1000,
     0x000eff1001000f92b800000eff1001000eff1000000eff1001000eff1000000eff1001000eff1000000eff1001,
     0x000eff1000000eff1001000eff1000000eff1001000f92b800000eff1001000eff1000000eff1001000eff1000,
     0x000eff1001000eff1000000eff1001000eff1000000eff1001000eff1000000f92b80100114db000000cb07001,
     0x00114db000000cb0700100114db000000cb070010011e15800000c1cc8010011e15800000c1cc8010011e15800,
     0x000cb0700100114db000000cb0700100114db000000cb070010011e15800000c1cc8010011e15800000c1cc801,
     0x0011e15800000c1cc8010011e15800000cb0700100114db000000cb0700100114db000000cb070010011e15800,
     0x000c1cc8010011e15800000c1cc8010011e15800000cb0700100114db000000cb0700100114db000000cb07001,
     0x00114db000000cb070010011e15800000c1cc8010011e15800000c1cc8010011e15800000cb0700100114db000,
     0x000cb0700100114db000000cb070010011e15800000c1cc8010011e15800000c1cc802001e91c803],
    some ⟨⟨-7200, false⟩, ⟨-3600, true⟩, ⟨3, 5, 0, -3600⟩, ⟨10, 5, 0, 0⟩⟩⟩,
  ⟨"America/Ojinaga", -25060,
    [⟨-25200, false⟩, ⟨-21600, false⟩, ⟨-21600, true⟩, ⟨-18000, true⟩],
    [0x0e57928f0000a3a43001006752af00000dae7102000caf8f00000f15090107869ef1030010b92701000d44f903,
     0x0010b92701000d45da020010b92700000d44f90200114ccf00000cb1510200114ccf00000f939902000c1be700,
     0x000f9399020010b92700000d44f9020010b92700000d44f90200114ccf00000cb1510200114ccf00000cb15102,
     0x00114ccf00000cb1510200114ccf00000d44f9020010b92700000d44f9020010b92700000b8a010200139b6f00,
     0x000a62b10200139b6f00000a62b10200139b6f00000a62b10200139b6f00000a62b10200139b6f00000a62b102,
     0x00139b6f00000af6590200139b6f00000a62b10200139b6f00000a62b10200139b6f00000a62b10200139b6f00,
     0x000a62b10200139b6f00000af6590200139b6f00000a62b102001307c701000af57803],
    some ⟨⟨-21600, false⟩, ⟨-18000, true⟩, ⟨3, 2, 0, 7200⟩, ⟨11, 1, 0, 7200⟩⟩⟩,
  ⟨"America/Panama", -19088,
    [⟨-19176, false⟩, ⟨-18000, false⟩],
    [0x0a949669000226d3bd81],
    none⟩,
  ⟨"America/Paramaribo", -13240,
    [⟨-13252, false⟩, ⟨-13236, false⟩, ⟨-12600, false⟩, ⟨-10800, false⟩],
    [0x0d0c7cf38002d24bd0c101437e0f020495c05043],
    none⟩,
  ⟨"America/Phoenix", -26898,
    [⟨-25200, false⟩, ⟨-21600, true⟩],
    [0x09dc64d300040a22de0100114ccf00000cb1510100114ccf00029ee231010038ed28c00007806901000f134700,
     0x02a775af41000efe2f00],
    none⟩,
  ⟨"America/Port-au-Prince", -17360,
    [⟨-17340, false⟩, ⟨-18000, false⟩, ⟨-14400, true⟩],
    [0x0a9495fd00032e752ac107cacd4d42000e6a8701000efff102000efe2f01000efff102000efe2f01000efff102,
     0x000efe2f01000efff102000efe2f01000d45da0200114db001000cb0700200114db001000cb0700200114db001,
     0x000d4418020010ba0801000d4418020010ba0801000d44180200114db001000cb0700200114db001000cb07002,
     0x00114db001000d4418020010ba0801000d4418020010ba080100dfc9bf0200114ccf01000cb1510200114ccf01,
     0x00a182630200139b6f01000a62b10200139b6f01000a62b10200139b6f01000a62b10200139b6f010028f47902],
    some ⟨⟨-18000, false⟩, ⟨-14400, true⟩, ⟨3, 2, 0, 7200⟩, ⟨11, 1, 0, 7200⟩⟩⟩,
  ⟨"America/Porto_Velho", -15336,
    [⟨-14400, false⟩, ⟨-10800, true⟩],
    [0x0d66cc368002164d5081000edf6c00000f3f3901000ed3ff0001f5a3a101000b34c0000012de78010009f77700,
     0x00141bc101000a0c8f0000141bc1010007698f0001443cc9010006d5e700001bb061010004dba700001430d901,
     0x0007698f00001430d9010009e25f00001430d9010009f777000213e10901000af49700001275e1010009399f00,
     0x0014d999010008a5f700],
    none⟩,
  ⟨"America/Puerto_Rico", -15865,
    [⟨-14400, false⟩, ⟨-10800, true⟩],
    [0x0baa8d63900510f9d0710066abb100],
    none⟩,
  ⟨"America/Punta_Arenas", -17020,
    [⟨-16965, false⟩, ⟨-18000, false⟩, ⟨-14400, false⟩, ⟨-14400, true⟩, ⟨-10800, true⟩,
     ⟨-10800, false⟩],
    [0x0a9495e7c0025a92949100c2c9e0b00041ffd752001838efb000f5e0605300118c57b1000c9c3903001176ff01,
     0x000c9c3903001176ff01000c9c3903001176ff01000c9c390300118c1701000c9c3902012554df010005079902,
     0x007aafb7030011b72801000433c8020285aaa004000c1be70200139d3104000a60ef020010274104000caf8f02,
     0x00114e9104000caf8f020011e23904000c1be7020010bae904000d4337020011e23904000c1be7020011e23904,
     0x000caf8f0200114e9104000caf8f0200114e9104000caf8f020011e23904000c1be7020011e23904000c1be702,
     0x0011e23904000caf8f0200114e9104000caf8f0200114e9104000caf8f0200114e9104000caf8f020011e23904,
     0x000c1be7020011e23904000c1be7020011e23904000efe2f02000efff104000caf8f0200114e9104000caf8f02,
     0x0011e23904000c1be702000f939904000e6a87020011e23904000caf8f0200114e9104000caf8f0200114e9104,
     0x000caf8f0200114e9104000caf8f020011e23904000c1be7020011e23904000dd6df020010274104000caf8f02,
     0x0010274104000f91d702000f939904000caf8f020011e23904000c1be7020011e23904000c1be7020011e23904,
     0x000c1be7020011e23904000caf8f0200114e9104000caf8f0200114e9104000caf8f020011e23904000c1be702,
     0x0011e23904000dd6df020010274104000caf8f0200114e9104000e6a8702000f93990400114ccf020008a7b904,
     0x0014c2bf02000a62b10400139b6f02000af65904001307c702000af659040032c0df0200078069040009399f05],
    none⟩,
  ⟨"America/Rankin_Inlet", 0,
    [⟨-21600, false⟩, ⟨-18000, true⟩, ⟨-18000, false⟩],
    [0x1274eae80001cd49d801000efe2f00000efff101000efe2f00000efff101000efe2f00000efff101000efe2f00,
     0x000efff101000f91d700000e6c4901000f91d700000efff101000efe2f00000efff101000efe2f00000efff101,
     0x000efe2f00000efff101000efe2f00000efff101000f91d700000e6c4901000f91d700000efff101000efe2f00,
     0x000efff101000efe2f00000efff101000efe2f00000d44f9010010b92700000d44f90100114ccf00000cb15101,
     0x00114ccf00000cb1510100114ccf00000d44f9010010b92700000d44f9010010b92700000d44f90100114ccf00,
     0x000cb1510100114ccf00000cb1510100114ccf00000d44f9010010b92700000d44f9010010b92700000d44f901,
     0x0010b92700000d44f90100114ccf00000cb1510100114ccf02000cb1510100114ccf00000d44f9010010b92700,
     0x000d44f9010010b92700000d44f90100114ccf00000cb1510100114ccf00000cb1510100114ccf00000af65901],
    some ⟨⟨-21600, false⟩, ⟨-18000, true⟩, ⟨3, 2, 0, 7200⟩, ⟨11, 1, 0, 7200⟩⟩⟩,
  ⟨"America/Recife", -8376,
    [⟨-10800, false⟩, ⟨-7200, true⟩],
    [0x0d66ca838002164e2281000edf6c00000f3f3901000ed3ff0001f5a3a101000b34c0000012de78010009f77700,
     0x00141bc101000a0c8f0000141bc1010007698f0001443cc9010006d5e700001bb061010004dba700001430d901,
     0x0007698f00001430d9010009e25f00001430d9010009f777000213e10901000af49700001275e1010009399f00,
     0x0014d999010008a5f7000014c481010008a5f70000155829010009cd470001221ff901000c1be700001275e101,
     0x000092c700001dff0101000a60ef00],
    none⟩,
  ⟨"America/Regina", -25116,
    [⟨-25200, false⟩, ⟨-21600, true⟩, ⟨-21600, false⟩],
    [0x0c6bfd39c0017bb1c7410010257f00015aa48701000caf8f0000114e9101000caf8f0000114e9101000caf8f00,
     0x0011e23901000c1be7000011e23901000caf8f00004b8fd901000efe2f00000efff101000e6a8700000f939901,
     0x000efe2f00000f939901000efe2f00000efff101000efe2f000009e5e301006d80b7000010274101000efe2f00,
     0x0010274101000caf8f0000114e9101000caf8f0000114e9101000caf8f000011e23901000c1be7000011e23901,
     0x000caf8f0000114e9101000caf8f0000114e9101000caf8f0000114e9101000caf8f0000114e9101000caf8f00,
     0x0011e23901000caf8f0000114e9101000caf8f00002f4cb101000efe2f00000efff102],
    none⟩,
  ⟨"America/Resolute", 0,
    [⟨-21600, false⟩, ⟨-18000, true⟩, ⟨-18000, false⟩],
    [0x115bdc200002e658a001000efe2f00000efff101000efe2f00000efff101000efe2f00000efff101000efe2f00,
     0x000efff101000f91d700000e6c4901000f91d700000efff101000efe2f00000efff101000efe2f00000efff101,
     0x000efe2f00000efff101000efe2f00000efff101000f91d700000e6c4901000f91d700000efff101000efe2f00,
     0x000efff101000efe2f00000efff101000efe2f00000d44f9010010b92700000d44f90100114ccf00000cb15101,
     0x00114ccf00000cb1510100114ccf00000d44f9010010b92700000d44f9010010b92700000d44f90100114ccf00,
     0x000cb1510100114ccf00000cb1510100114ccf00000d44f9010010b92700000d44f9010010b92700000d44f901,
     0x0010b92700000d44f90100114ccf00000cb1510100114ccf02000cb1510100114ccf00000d44f9010010b92700,
     0x000d44f9010010b92700000d44f90100114ccf00000cb1510100114ccf00000cb1510100114ccf02000af65901],
    some ⟨⟨-21600, false⟩, ⟨-18000, true⟩, ⟨3, 2, 0, 7200⟩, ⟨11, 1, 0, 7200⟩⟩⟩,
  ⟨"America/Rio_Branco", -16272,
    [⟨-18000, false⟩, ⟨-14400, true⟩, ⟨-14400, false⟩],
    [0x0d66cc710002164df701000edf6c00000f3f3901000ed3ff0001f5a3a101000b34c0000012de78010009f77700,
     0x00141bc101000a0c8f0000141bc1010007698f0001443cc9010006d5e700001bb061010004dba700001430d901,
     0x0007698f00001430d9010009e25f00001430d9010009f777000213e10901000af49700001275e1010009399f00,
     0x0014d999010008a5f700026549a90200a1e85700],
    none⟩,
  ⟨"America/Santarem", -13128,
    [⟨-14400, false⟩, ⟨-10800, true⟩, ⟨-10800, false⟩],
    [0x0d66cbac8002164dda81000edf6c00000f3f3901000ed3ff0001f5a3a101000b34c0000012de78010009f77700,
     0x00141bc101000a0c8f0000141bc1010007698f0001443cc9010006d5e700001bb061010004dba700001430d901,
     0x0007698f00001430d9010009e25f00001430d9010009f777000213e10901000af49700001275e1010009399f00,
     0x0014d999010008a5f700026549a902],
    none⟩,
  ⟨"America/Santiago", -16965,
    [⟨-18000, false⟩, ⟨-16965, false⟩, ⟨-14400, false⟩, ⟨-14400, true⟩, ⟨-10800, true⟩],
    [0x0cef287c5000c2c9e0b10041ffd752001838efb100f5e0605300118c57b0000c9c3903001176ff00000c9c3903,
     0x001176ff00000c9c3903001176ff00000c9c390300118c1700000c9c3902012554df0000050799020076fa7f04,
     0x0003b457030011b80900000433c8020285aaa004000c1be70200139d3104000a60ef020010274104000caf8f02,
     0x00114e9104000caf8f020011e23904000c1be7020010bae904000d4337020011e23904000c1be7020011e23904,
     0x000caf8f0200114e9104000caf8f0200114e9104000caf8f020011e23904000c1be7020011e23904000c1be702,
     0x0011e23904000caf8f0200114e9104000caf8f0200114e9104000caf8f0200114e9104000caf8f020011e23904,
     0x000c1be7020011e23904000c1be7020011e23904000efe2f02000efff104000caf8f0200114e9104000caf8f02,
     0x0011e23904000c1be702000f939904000e6a87020011e23904000caf8f0200114e9104000caf8f0200114e9104,
     0x000caf8f0200114e9104000caf8f020011e23904000c1be7020011e23904000dd6df020010274104000caf8f02,
     0x0010274104000f91d702000f939904000caf8f020011e23904000c1be7020011e23904000c1be7020011e23904,
     0x000c1be7020011e23904000caf8f0200114e9104000caf8f0200114e9104000caf8f020011e23904000c1be702,
     0x0011e23904000dd6df020010274104000caf8f0200114e9104000e6a8702000f93990400114ccf020008a7b904,
     0x0014c2bf02000a62b10400139b6f02000af65904001307c702000af659040032c0df02000780690400167db702,
     0x000780690400167db702000780690400139b6f02000cb1510400114ccf02000cb1510400114ccf02000cb15104,
     0x00114ccf02000d44f904],
    some ⟨⟨-14400, false⟩, ⟨-10800, true⟩, ⟨9, 1, 6, 86400⟩, ⟨4, 1, 6, 86400⟩⟩⟩,
  ⟨"America/Santo_Domingo", -16776,
    [⟨-16800, false⟩, ⟨-18000, false⟩, ⟨-14400, true⟩, ⟨-16200, true⟩, ⟨-14400, false⟩],
    [0x0a9495d880051582558103f29097020009f77701005002e9030009b89f81001445808300072ab7810017671083,
     0x0006c13f8100173ce0830006eb6f81001712b08300070087810016fd9884030eb269010002e24804],
    none⟩,
  ⟨"America/Sao_Paulo", -11188,
    [⟨-10800, false⟩, ⟨-7200, true⟩],
    [0x0d66cb334002164d72c1000edf6c00000f3f3901000ed3ff0001f5a3a101000b34c0000012de78010009f77700,
     0x00141bc101000a0c8f0000141bc1010007698f0001405d6101000ab54f00001bb061010004dba700001430d901,
     0x0007698f00001430d9010009e25f00001430d9010009f777000213e10901000af49700001275e1010009399f00,
     0x0014d999010008a5f7000014c481010008a5f70000155829010009cd47000014c481010009cd4700001430d901,
     0x0009399f0000155829010008124f000015582901000a60ef0000139d3101000a60ef0000139d31010009cd4700,
     0x00139d3101000af4970000131ea101000c06cf00001275e101000af49700001275e101000c1be700001275e101,
     0x000af4970000139d3101000a60ef0000155829010008a5f700001430d9010009cd4700001582590100090f6f00,
     0x00139d3101000a60ef0000155829010009399f000013098901000a60ef00001430d9010009cd4700001430d901,
     0x000a60ef0000139d3101000a60ef0000139d3101000af4970000139d31010009cd4700001430d9010009cd4700,
     0x001430d901000a60ef0000139d3101000a60ef0000139d3101000a60ef0000139d3101000a60ef000015582901,
     0x0008a5f700],
    none⟩,
  ⟨"America/Scoresbysund", -5272,
    [⟨-7200, false⟩, ⟨-3600, true⟩, ⟨0, true⟩, ⟨-3600, false⟩],
    [0x0db428c980077cd22281000e6b6800000efd4e02000efe2f03000eff1002000eff1003000eff1002000eff1003,
     0x000eff1002000f92b803000eff1002000eff1003000eff1002000eff1003000eff1002000eff1003000eff1002,
     0x000eff1003000eff1002000eff1003000eff1002000f92b803000eff1002000eff1003000eff1002000eff1003,
     0x000eff1002000eff1003000eff1002000eff1003000eff1002000eff1003000f92b80200114db003000cb07002,
     0x00114db003000cb0700200114db003000cb070020011e15803000c1cc8020011e15803000c1cc8020011e15803,
     0x000cb0700200114db003000cb0700200114db003000cb070020011e15803000c1cc8020011e15803000c1cc802,
     0x0011e15803000c1cc8020011e15803000cb0700200114db003000cb0700200114db003000cb070020011e15803,
     0x000c1cc8020011e15803000c1cc8020011e15803000cb0700200114db003000cb0700200114db003000cb07002,
     0x00114db003000cb070020011e15803000c1cc8020011e15803000c1cc8020011e15803000cb0700200114db003,
     0x000cb0700200114db003000cb070020011e15803000c1cc8020011e15803000c1cc8020011e15803000cb07001],
    some ⟨⟨-7200, false⟩, ⟨-3600, true⟩, ⟨3, 5, 0, -3600⟩, ⟨10, 5, 0, 0⟩⟩⟩,
  ⟨"America/Sitka", 53927,
    [⟨-32473, false⟩, ⟨-28800, false⟩, ⟨-25200, true⟩, ⟨-32400, false⟩, ⟨-28800, true⟩],
    [0x07f853e51003dc435c8104e01e7072006d80b70102c5721102000efe2f01000efff102000efe2f01000efff102,
     0x000f91d701000efff102000efe2f01000efff102000efe2f010005c57102001838af010009cf090200142f1701,
     0x000efff102000f91d701000e6c4902000f91d701000efff102000efe2f01000efff102000efe2f01000efff102,
     0x000efe2f01000efff102000efe2f01000efff102000f91d701000e6c4902000f91d703000f00d204000efe2f03,
     0x000efff104000efe2f03000efff104000efe2f03000d44f9040010b92703000d44f90400114ccf03000cb15104,
     0x00114ccf03000cb1510400114ccf03000d44f9040010b92703000d44f9040010b92703000d44f90400114ccf03,
     0x000cb1510400114ccf03000cb1510400114ccf03000d44f9040010b92703000d44f9040010b92703000d44f904,
     0x0010b92703000d44f90400114ccf03000cb1510400114ccf03000cb1510400114ccf03000d44f9040010b92703,
     0x000d44f9040010b92703000d44f90400114ccf03000cb1510400114ccf03000cb1510400114ccf03000af65904],
    some ⟨⟨-32400, false⟩, ⟨-28800, true⟩, ⟨3, 2, 0, 7200⟩, ⟨11, 1, 0, 7200⟩⟩⟩,
  ⟨"America/St_Johns", -12652,
    [⟨-9052, true⟩, ⟨-12652, false⟩, ⟨-12600, false⟩, ⟨-9000, true⟩, ⟨-5400, true⟩],
    [0x0dc91a28c0000d584f0100113979000010257f01000fbb260000082767010015c1a100000efe2f01000efff100,
     0x000efe2f01000f939900000e6a8701000f939900000e6a8701000f939900000e6a8701000f939900000e6a8701,
     0x000f939900000efe2f01000efff100000efe2f01000f939900000e6a8701000f939900000e6a8701000f939900,
     0x000e6a8701000f939900000e6a8701000f939900000efe2f01000f939900000e6a8701000f939900000e6a8701,
     0x000c88020200030b93c3000e6a87020010282203000c1be7020011e23903000c1be7020011e23903000c1be702,
     0x001275e103000b883f02001275e103000c1be7020011e23903000c1be7020011e23903006602f102001275e103,
     0x000c1be7020011e23903000c1be7020011e23903000c1be7020011e23903000c1be702001275e103000c1be702,
     0x0010bae903000caf8f0200114e9103000caf8f0200114e9103000caf8f0200114e9103000caf8f0200114e9103,
     0x000caf8f020011e23903000caf8f0200114e9103000caf8f0200114e9103000caf8f0200114e9103000caf8f02,
     0x00114e9103000f91d702000efff103000efe2f02000efff103000efe2f02000efff103000efe2f02000efff103,
     0x000efe2f02000efff103000f91d702000e6c4903000f91d702000efff103000efe2f02000efff103000efe2f02,
     0x000efff103000efe2f02000efff103000efe2f02000efff103000f91d702000efff103000efe2f02000efff103,
     0x000efe2f02000efff103000efe2f02000efff103000efe2f02000efff103000f91d702000e6c4903000f91d702,
     0x000efff103000efe2f02000efff103000efe2f02000efff103000efe2f02000efff103000efe2f02000efff103,
     0x000f91d702000e6c4903000f91d702000efff103000efe2f02000efff103000efe2f02000efff103000efe2f02,
     0x000d433ac30010b92702000d44f90400114bee02000cb2320300114ccf02000cb1510300114ccf02000d44f903,
     0x0010b92702000d44f9030010b92702000d44f90300114ccf02000cb1510300114ccf02000cb1510300114ccf02,
     0x000d44f9030010b92702000d44f9030010b92702000d44f9030010b92702000d44f90300114ccf02000cb15103,
     0x00114ccf02000cb1510300114ccf02000d44f9030010b92702000d44f9030010b92702000d44f90300114ccf02,
     0x000cb1510300114ccf02000cb1510300114ccf02000af6590300139b6f02000a62b10300139b6f02000a62b103,
     0x00139b6f02000af6590300139b6f02000a62b10300139d2d42],
    some ⟨⟨-12600, false⟩, ⟨-9000, true⟩, ⟨3, 2, 0, 7200⟩, ⟨11, 1, 0, 7200⟩⟩⟩,
  ⟨"America/Swift_Current", -25880,
    [⟨-25200, false⟩, ⟨-21600, true⟩, ⟨-21600, false⟩],
    [0x0c6bfd6980017bb197810010257f0002bce05101006d80b70000114e9101000dd6df000010274101000caf8f00,
     0x00114e9101000caf8f0000114e9101000caf8f0000e468c101000efe2f00002cfe1101000efe2f00000efff101,
     0x000caf8f000011e23901000c1be700013ef6c902],
    none⟩,
  ⟨"America/Tegucigalpa", -20932,
    [⟨-21600, false⟩, ⟨-18000, true⟩],
    [0x0e40e8bc4007c4e919c1000c1be7000011e23901000c1be700021210f901000793bf00],
    none⟩,
  ⟨"America/Thule", -16508,
    [⟨-14400, false⟩, ⟨-10800, true⟩],
    [0x0db42b87c008c7502e41000efe2f00000efff101000efe2f00000f93990100114ccf00000cb1510100114ccf00,
     0x000cb1510100114ccf00000d44f9010010b92700000d44f9010010b92700000d44f9010010b92700000d44f901,
     0x00114ccf00000cb1510100114ccf00000cb1510100114ccf00000d44f9010010b92700000d44f9010010b92700,
     0x000d44f90100114ccf00000cb1510100114ccf00000cb1510100114ccf00000af65901],
    some ⟨⟨-14400, false⟩, ⟨-10800, true⟩, ⟨3, 2, 0, 7200⟩, ⟨11, 1, 0, 7200⟩⟩⟩,
  ⟨"America/Tijuana", -28084,
    [⟨-25200, false⟩, ⟨-28800, false⟩, ⟨-25200, true⟩],
    [0x0e57928f00003c26700100677ea100006752af01000b4ab902000efe2f01013df9a902006b3217010047daa102,
     0x001765bf010026e52102000c06cf010011e3fb02000caf8f0100114e9102000caf8f0100114db002000cb07001,
     0x00114db002000cb0700100114db002000cb070010011e15802000cb0700100114db002000cb0700100114db002,
     0x000cb0700100114db002000cb0700100114db002000cb070010011e15802000c1cc8010011e15802000eff1001,
     0x000eff1002000eff1001000eff1002000eff1001000eff1002000f92b801000e6b6802000f92b801000efff102,
     0x000efe2f01000efff102000efe2f01000efff102000efe2f01000efff102000efe2f01000efff102000f91d701,
     0x000efff102000efe2f01000efff102000efe2f010005c57102001838af010009cf090200142f1701000efff102,
     0x000f91d701000e6c4902000f91d701000efff102000efe2f01000efff102000efe2f01000efff102000efe2f01,
     0x000efff102000efe2f01000efff102000f91d701000e6c4902000f91d701000efff102000efe2f01000efff102,
     0x000efe2f01000efff102000efe2f01000d44f9020010b92701000d44f90200114ccf01000cb1510200114ccf01,
     0x000cb1510200114ccf01000d44f9020010b92701000d44f9020010b92701000d44f90200114ccf01000cb15102,
     0x00114ccf01000cb1510200114ccf01000d44f9020010b92701000d44f9020010b92701000d44f9020010b92701,
     0x000d44f90200114ccf01000cb1510200114ccf01000cb1510200114ccf01000d44f9020010b92701000d44f902,
     0x0010b92701000d44f90200114ccf01000cb1510200114ccf01000cb1510200114ccf01000cb1510200114ccf01,
     0x000d44f9020010b92701000d44f9020010b92701000b8a0102],
    some ⟨⟨-28800, false⟩, ⟨-25200, true⟩, ⟨3, 2, 0, 7200⟩, ⟨11, 1, 0, 7200⟩⟩⟩,
  ⟨"America/Toronto", -19052,
    [⟨-18000, false⟩, ⟨-14400, true⟩],
    [0x0b2b0b96c002bca1a8410010257f00000cc436810011382780000f955b01000c1a250000130b4b01000a21a700,
     0x0013dc7901000a60ef0000139d3101000a60ef000013098901000b883f00001275e101000b883f00001275e101,
     0x000b883f00001275e101000c1be7000011e23901000caf8f0000114e9101000caf8f0000114e9101000caf8f00,
     0x00114e9101000caf8f000011e23901000c1be7000011e23901000caf8f0000114e9101000caf8f0000114e9101,
     0x000caf8f0000114e9101000caf8f0000114e9101000caf8f0000114e9101000caf8f000011e23901000c1be700,
     0x0011e2390100a339d70000114e9101000caf8f0000114e9101000caf8f0000114e9101000caf8f0000114e9101,
     0x0011e07700000cb1510100114ccf00000cb15101000caf8f0000114e9101000caf8f0000114e9101000caf8f00,
     0x00114e9101000caf8f0000114e9101000caf8f000011e23901000caf8f0000114e9101000efe2f00000efff101,
     0x000efe2f00000efff101000efe2f00000efff101000f91d700000efff101000efe2f00000efff101000efe2f00,
     0x000efff101000efe2f00000efff101000efe2f00000efff101000f91d700000e6c4901000f91d700000efff101,
     0x000efe2f00000efff101000efe2f00000efff101000efe2f00000efff101000efe2f00000efff101000f91d700,
     0x000efff101000efe2f00000efff101000efe2f00000efff101000efe2f00000efff101000efe2f00000efff101,
     0x000f91d700000e6c4901000f91d700000efff101000efe2f00000efff101000efe2f00000efff101000efe2f00,
     0x000efff101000efe2f00000efff101000f91d700000e6c4901000f91d700000efff101000efe2f00000efff101,
     0x000efe2f00000efff101000efe2f00000d44f9010010b92700000d44f90100114ccf00000cb1510100114ccf00,
     0x000cb1510100114ccf00000d44f9010010b92700000d44f9010010b92700000d44f90100114ccf00000cb15101,
     0x00114ccf00000cb1510100114ccf00000d44f9010010b92700000d44f9010010b92700000d44f9010010b92700,
     0x000d44f90100114ccf00000cb1510100114ccf00000cb1510100114ccf00000d44f9010010b92700000d44f901,
     0x0010b92700000d44f90100114ccf00000cb1510100114ccf00000cb1510100114ccf00000af65901],
    some ⟨⟨-18000, false⟩, ⟨-14400, true⟩, ⟨3, 2, 0, 7200⟩, ⟨11, 1, 0, 7200⟩⟩⟩,
  ⟨"America/Vancouver", -29548,
    [⟨-28800, false⟩, ⟨-25200, true⟩],
    [0x09dffb76c00407b46b410010257f0002bce05101006d80b70000114e9101000caf8f0000114e9101000caf8f00,
     0x00114e9101000caf8f0000114e9101000caf8f000011e23901000c1be7000011e23901000caf8f0000114e9101,
     0x000caf8f0000114e9101000caf8f0000114e9101000caf8f0000114e9101000caf8f000011e23901000caf8f00,
     0x00114e9101000caf8f0000114e9101000caf8f0000114e9101000caf8f0000114e9101000caf8f000011e23901,
     0x000c1be7000011e23901000efe2f00000efff101000efe2f00000efff101000efe2f00000efff101000f91d700,
     0x000e6c4901000f91d700000efff101000efe2f00000efff101000efe2f00000efff101000efe2f00000efff101,
     0x000efe2f00000efff101000f91d700000efff101000efe2f00000efff101000efe2f00000efff101000efe2f00,
     0x000efff101000efe2f00000efff101000f91d700000e6c4901000f91d700000efff101000efe2f00000efff101,
     0x000efe2f00000efff101000efe2f00000efff101000efe2f00000efff101000f91d700000e6c4901000f91d700,
     0x000efff101000efe2f00000efff101000efe2f00000efff101000efe2f00000d44f9010010b92700000d44f901,
     0x00114ccf00000cb1510100114ccf00000cb1510100114ccf00000d44f9010010b92700000d44f9010010b92700,
     0x000d44f90100114ccf00000cb1510100114ccf00000cb1510100114ccf00000d44f9010010b92700000d44f901,
     0x0010b92700000d44f9010010b92700000d44f90100114ccf00000cb1510100114ccf00000cb1510100114ccf00,
     0x000d44f9010010b92700000d44f9010010b92700000d44f90100114ccf00000cb1510100114ccf00000cb15101,
     0x00114ccf00000af65901],
    some ⟨⟨-28800, false⟩, ⟨-25200, true⟩, ⟨3, 2, 0, 7200⟩, ⟨11, 1, 0, 7200⟩⟩⟩,
  ⟨"America/Whitehorse", -32412,
    [⟨-32400, false⟩, ⟨-28800, true⟩, ⟨-25200, true⟩, ⟨-28800, false⟩, ⟨-25200, false⟩],
    [0x0bd48cb1c002132411410010257f0000114e9101000d2c5d00029e656301006d80b700024ce42702000f92b800,
     0x0009ce280301aa3ed902000efe2f03000efff102000efe2f03000efff102000f91d703000e6c4902000f91d703,
     0x000efff102000efe2f03000efff102000efe2f03000efff102000efe2f03000d44f9020010b92703000d44f902,
     0x00114ccf03000cb1510200114ccf03000cb1510200114ccf03000d44f9020010b92703000d44f9020010b92703,
     0x000d44f90200114ccf03000cb1510200114ccf03000cb1510200114ccf03000d44f9020010b92703000d44f902,
     0x0010b92703000d44f9020010b92703000d44f90200114ccf03000cb1510200114ccf03000cb1510200114ccf03,
     0x000d44f9020010b92703000d44f9020010b92703000d44f90200114ccf03000cb1510200114ccf03000cb15102,
     0x00114ccf03000af6590200139b6f03000a62b10200139b6f03000a62b10200139b6f03000af6590200139b6f03,
     0x000a62b10200139b6f03000a62b10200139b6f03000a62b10200139b6f03000a62b10200139b6f03000a62b102,
     0x00139b6f03000af6590200139b6f03000a62b10200139b6f03000a62b10200139b6f03000a62b10200139b6f03,
     0x000a62b102001399ad04],
    none⟩,
  ⟨"America/Winnipeg", -23316,
    [⟨-21600, false⟩, ⟨-18000, true⟩],
    [0x0a4a6f11400361d4b4c1000c1be700002f4e73010010257f00022e542101000af497000083979901006d80b700,
     0x001275e101000caf8f000010274101000caf8f0000114e9101000caf8f0000114e9101000caf8f000011f75101,
     0x000c855f00001163a901000caf8f0000114e9101000caf8f0000114e9101000caf8f0000114e9101000caf8f00,
     0x00114e9101000caf8f000011e23901000caf8f0000114e9101000caf8f0000114e9101000caf8f0000114e9101,
     0x000efe2f00000efff101000caf8f00004dde7901000c1be700004dde7901000f92b800000eff1001000eff1000,
     0x000eff1001000eff1000000eff1001000eff1000000eff1001000eff1000000eff1001000f92b800000eff1001,
     0x000eff1000000eff1001000eff1000000eff1001000eff1000000eff1001000eff1000000eff1001000f92b800,
     0x000e6b6801000f92b800000eff1001000eff1000000eff1001000eff1000000eff1001000eff1000000eff1001,
     0x000eff1000000eff1001000f92b800000e6b6801000f92b800000eff1001000eff1000000eff1001000eff1000,
     0x000eff1001000eff1000000d4418010010ba0800000d44180100114db000000cb0700100114db000000cb07001,
     0x00114db000000d4418010010ba0800000d4418010010ba0800000d44180100114db000000cb0700100114db000,
     0x000cb0700100114db000000d4418010010ba0800000d4418010010ba0800000d4418010010ba0800000d441801,
     0x00114db000000cb0700100114db000000cb0700100114db000000d4418010010ba0800000d4418010010ba0800,
     0x000d44180100114db000000cb0700100114db000000cb0700100114ccf00000af65901],
    some ⟨⟨-21600, false⟩, ⟨-18000, true⟩, ⟨3, 2, 0, 7200⟩, ⟨11, 1, 0, 7200⟩⟩⟩,
  ⟨"America/Yakutat", 52865,
    [⟨-33535, false⟩, ⟨-32400, false⟩, ⟨-28800, true⟩],
    [0x07f853e51003dc439ee104e01f0f12006d80b70102c5721102000efe2f01000efff102000efe2f01000efff102,
     0x000f91d701000efff102000efe2f01000efff102000efe2f010005c57102001838af010009cf090200142f1701,
     0x000efff102000f91d701000e6c4902000f91d701000efff102000efe2f01000efff102000efe2f01000efff102,
     0x000efe2f01000efff102000efe2f01000efff102000f91d701000e6c4902000f91d701000efff102000efe2f01,
     0x000efff102000efe2f01000efff102000efe2f01000d44f9020010b92701000d44f90200114ccf01000cb15102,
     0x00114ccf01000cb1510200114ccf01000d44f9020010b92701000d44f9020010b92701000d44f90200114ccf01,
     0x000cb1510200114ccf01000cb1510200114ccf01000d44f9020010b92701000d44f9020010b92701000d44f902,
     0x0010b92701000d44f90200114ccf01000cb1510200114ccf01000cb1510200114ccf01000d44f9020010b92701,
     0x000d44f9020010b92701000d44f90200114ccf01000cb1510200114ccf01000cb1510200114ccf01000af65902],
    some ⟨⟨-32400, false⟩, ⟨-28800, true⟩, ⟨3, 2, 0, 7200⟩, ⟨11, 1, 0, 7200⟩⟩⟩]

end FeedSieve.Time.Zone
